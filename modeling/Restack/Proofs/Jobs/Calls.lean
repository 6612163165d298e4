import Restack.Proofs.Jobs.History
import Restack.Proofs.Jobs.Making
import Restack.Proofs.Jobs.Protocol

/-!
# Sessions after any calls

Projects and jobs are made, jobs are run and cancelled, and listeners come and go, in any order and
as often as anybody likes. Whatever the calls were, the row of every job tells of the runs that the
job has had.
-/

namespace Restack.Jobs

/-- What may be asked of a session. -/
inductive Call where
  | createProject (tables : Analysis.Tables) (name : Value) (files : List Value)
  | createJob (project : String) (source target layer options : Value)
  | cancel (job : String)
  | subscribe (listener : Listener)
  | unsubscribe (name : String)
  | run (job : String)

/-- The session after a call, whether the call has a result or not. -/
def Call.carryOut (service : Service) (session : Session) : Call → Session
  | .createProject tables name files =>
    match session.store.createProject tables name files with
    | .ok (_, store) => { session with store }
    | .error _ => session
  | .createJob project source target layer options =>
    match session.store.createJob project source target layer options with
    | some (_, store) => { session with store }
    | none => session
  | .cancel job => (session.cancel job).2
  | .subscribe listener => session.subscribe listener
  | .unsubscribe name => session.unsubscribe name
  | .run job => (session.run service job).2

/-- The session after some calls, from a store without projects and jobs. -/
def Session.afterCalls (service : Service) (supply : Supply) (frameworks : Catalogue)
    (calls : List Call) : Session :=
  calls.foldl (Call.carryOut service) (.ofStore (.empty supply frameworks))

/-- The row of a job that was just made tells of no run. -/
theorem Store.JobMade.recounts {key : String} {source target options : Value} {job : Job}
    {store made : Store} (h : JobMade key source target options job store made) :
    job.Recounts [] where
  status := h.status
  stage := by simp
  untouched := fun _ => h.progress
  done := by simp
  error := by simp
  no_error := fun _ => h.error
  result := by simp
  no_result := fun _ => h.result

/-- Names are given out once. Every project is kept under its own name, and every job under its own,
which was given out, and for a project that is kept; its row tells how its runs ended. No run ended
of a job that is not there. -/
structure Session.Orderly (session : Session) : Prop where
  distinct : Function.Injective session.store.supply.name
  projects : ∀ key project, session.store.project? key = some project → project.id = .str key
  given : ∀ name row, session.store.job? name = some row →
    ∃ n < session.store.named, session.store.supply.name n = name
  jobs : ∀ name row, session.store.job? name = some row →
    row.id = .str name ∧
      (∃ key project, row.project = .str key ∧ session.store.project? key = some project) ∧
      row.Recounts (endingsOf name session.milestones)
  silent : ∀ name, session.store.job? name = none → endingsOf name session.milestones = []

namespace Session.Orderly

variable {session after : Session} {name : String} {job : Job}

/-- A session is orderly before any calls. -/
theorem ofStore_empty {supply : Supply} (hsupply : Function.Injective supply.name)
    (frameworks : Catalogue) : (ofStore (.empty supply frameworks)).Orderly where
  distinct := hsupply
  projects _ _ h := by cases h
  given _ _ h := by cases h
  jobs _ _ h := by cases h
  silent _ _ := rfl

/-- A job and its project are kept. -/
theorem keeps (h : session.Orderly) (hjob : session.store.job? name = some job) :
    ∃ key project, session.Keeps name key job project := by
  obtain ⟨-, ⟨key, project, haim, hkept⟩, -⟩ := h.jobs name job hjob
  exact ⟨key, project, hjob, haim, hkept, h.projects key project hkept⟩

/-- A session stays orderly when nothing happens but that requests are granted. -/
theorem of_store (h : session.Orderly) (hstore : after.store = session.store)
    (hendings : ∀ name, endingsOf name after.milestones = endingsOf name session.milestones) :
    after.Orderly where
  distinct := hstore ▸ h.distinct
  projects := hstore ▸ h.projects
  given := hstore ▸ h.given
  jobs name row hrow := by
    rw [hstore] at hrow ⊢
    rw [hendings]
    exact h.jobs name row hrow
  silent name hnone := by
    rw [hstore] at hnone
    rw [hendings]
    exact h.silent name hnone

/-- A request to cancel leaves a session orderly. -/
theorem cancel (h : session.Orderly) (name : String) : (session.cancel name).2.Orderly := by
  obtain ⟨granted, hheard⟩ := cancel_heard name session
  refine h.of_store hheard.store fun other => ?_
  rw [hheard.milestones, endingsOf_append, endingsOf_granted, List.append_nil]

/-- The next name was not given to a job yet. -/
theorem next_free (h : session.Orderly) :
    session.store.job? (session.store.supply.name session.store.named) = none := by
  cases hrow : session.store.job? (session.store.supply.name session.store.named) with
  | none => rfl
  | some row =>
    obtain ⟨n, hn, hname⟩ := h.given _ row hrow
    rw [h.distinct hname] at hn
    exact absurd hn (Nat.lt_irrefl _)

/-- What was given out stays so while more is given out. -/
theorem given_of_le (h : session.Orderly) {store : Store}
    (hsupply : store.supply = session.store.supply)
    (hnamed : session.store.named ≤ store.named) (hjob : session.store.job? name = some job) :
    ∃ n < store.named, store.supply.name n = name := by
  obtain ⟨n, hn, hname⟩ := h.given name job hjob
  exact ⟨n, by omega, by rw [hsupply, hname]⟩

/-- A project that is made touches no job, and no other project. -/
theorem createProject (h : session.Orderly) {tables : Analysis.Tables} {title : Value}
    {files : List Value} {project : Project} {store : Store}
    (hcreated : session.store.createProject tables title files = .ok (project, store)) :
    ({ session with store } : Session).Orderly := by
  have hmade := Store.projectMade hcreated
  have hle : session.store.named ≤ store.named := by
    have hnamed := hmade.named
    omega
  refine ⟨hmade.supply ▸ h.distinct, fun key row hrow => ?_, fun name row hrow => ?_,
    fun name row hrow => ?_, fun name hnone => ?_⟩
  · rw [hmade.projects] at hrow
    split at hrow
    · rename_i hkey
      rw [hkey, ← hmade.id, ← Option.some_inj.mp hrow]
    · exact h.projects key row hrow
  · rw [hmade.jobs] at hrow
    exact h.given_of_le hmade.supply hle hrow
  · rw [hmade.jobs] at hrow
    obtain ⟨hrowid, ⟨key, kept, haim, hkept⟩, hrecounts⟩ := h.jobs name row hrow
    refine ⟨hrowid, ⟨key, ?_⟩, hrecounts⟩
    rw [hmade.projects]
    split
    · exact ⟨project, haim, rfl⟩
    · exact ⟨kept, haim, hkept⟩
  · rw [hmade.jobs] at hnone
    exact h.silent name hnone

/-- A job that is made touches no other job, and no project. -/
theorem createJob (h : session.Orderly) {key : String} {source target layer options : Value}
    {job : Job} {store : Store}
    (hcreated : session.store.createJob key source target layer options = some (job, store)) :
    ({ session with store } : Session).Orderly := by
  have hmade := Store.jobMade hcreated
  have hlt : session.store.named < store.named := by
    have hnamed := hmade.named
    omega
  -- Under the new name nothing was kept before, so nothing is told of it either.
  refine ⟨hmade.supply ▸ h.distinct, fun other row hrow => ?_, fun name row hrow => ?_,
    fun name row hrow => ?_, fun name hnone => ?_⟩
  · rw [hmade.projects] at hrow
    exact h.projects other row hrow
  · rw [hmade.jobs] at hrow
    split at hrow
    · rename_i hname
      refine ⟨session.store.named, hlt, ?_⟩
      change store.supply.name session.store.named = name
      rw [hmade.supply, hname]
    · exact h.given_of_le hmade.supply (Nat.le_of_lt hlt) hrow
  · rw [hmade.jobs] at hrow
    split at hrow
    · rename_i hname
      obtain ⟨project, hproject⟩ := hmade.kept
      rw [← Option.some_inj.mp hrow, hname, h.silent _ h.next_free]
      exact ⟨hmade.id, ⟨key, project, hmade.project, (hmade.projects key).trans hproject⟩,
        hmade.recounts⟩
    · obtain ⟨hrowid, ⟨other, kept, hother, hkept⟩, hrecounts⟩ := h.jobs name row hrow
      exact ⟨hrowid, ⟨other, kept, hother, (hmade.projects other).trans hkept⟩, hrecounts⟩
  · rw [hmade.jobs] at hnone
    split at hnone
    · cases hnone
    · exact h.silent name hnone

/-- A run of a job that is kept adds its end to what is told of this job, and to nothing else. -/
theorem run (h : session.Orderly) (service : Service) (name : String) :
    (session.run service name).2.Orderly := by
  cases hjob : session.store.job? name with
  | none => rwa [run_of_missing service hjob]
  | some job =>
    obtain ⟨key, project, hkeeps⟩ := h.keeps hjob
    obtain ⟨hid, -, hrecounts⟩ := h.jobs name job hjob
    obtain ⟨ending, row, hrow, hends, hendings⟩ := run_told service hkeeps hid
    have helsewhere := run_elsewhere service hkeeps
    obtain ⟨project', hproject', -⟩ := helsewhere.kept hkeeps.kept
    -- Only the row of this job is another one, and its last end is the end of this run.
    refine ⟨helsewhere.supply ▸ h.distinct, fun key project hproject => ?_,
      fun other row' hrow' => ?_, fun other row' hrow' => ?_, fun other hnone => ?_⟩
    · obtain ⟨earlier, hearlier, hsame⟩ := helsewhere.earlier hproject
      exact hsame.symm.trans (h.projects key earlier hearlier)
    · by_cases hother : other = name
      · exact h.given_of_le helsewhere.supply (Nat.le_of_eq helsewhere.named.symm) (hother ▸ hjob)
      · rw [helsewhere.jobs other hother] at hrow'
        exact h.given_of_le helsewhere.supply (Nat.le_of_eq helsewhere.named.symm) hrow'
    · rw [hendings]
      by_cases hother : other = name
      · subst hother
        rw [hrow, Option.some_inj] at hrow'
        subst hrow'
        rw [if_pos rfl]
        exact ⟨hends.id.trans hid, ⟨key, project', hends.project.trans hkeeps.aim, hproject'⟩,
          hrecounts.snoc hends⟩
      · rw [helsewhere.jobs other hother] at hrow'
        obtain ⟨hrowid, ⟨key, project, haim, hproject⟩, hrow⟩ := h.jobs other row' hrow'
        obtain ⟨project', hproject', -⟩ := helsewhere.kept hproject
        rw [if_neg (Ne.symm hother), List.append_nil]
        exact ⟨hrowid, ⟨key, project', haim, hproject'⟩, hrow⟩
    · have hother : other ≠ name := by
        rintro rfl
        rw [hrow] at hnone
        cases hnone
      rw [helsewhere.jobs other hother] at hnone
      rw [hendings, h.silent other hnone, if_neg (Ne.symm hother), List.nil_append]

/-- Whatever is asked of a session, it stays orderly. -/
theorem carryOut (h : session.Orderly) (service : Service) (call : Call) :
    (call.carryOut service session).Orderly := by
  cases call with
  | createProject tables name files =>
    rw [Call.carryOut]
    split
    · rename_i project store hcreated
      exact h.createProject hcreated
    · exact h
  | createJob key source target layer options =>
    rw [Call.carryOut]
    split
    · rename_i job store hcreated
      exact h.createJob hcreated
    · exact h
  | cancel name => exact h.cancel name
  | subscribe listener => exact h.of_store rfl fun _ => rfl
  | unsubscribe name => exact h.of_store rfl fun _ => rfl
  | run name => exact h.run service name

/-- Sessions are orderly after any calls. -/
theorem afterCalls (service : Service) {supply : Supply} (hsupply : Function.Injective supply.name)
    (frameworks : Catalogue) (calls : List Call) :
    (Session.afterCalls service supply frameworks calls).Orderly := by
  have hcalls : ∀ session : Session, session.Orderly →
      (calls.foldl (Call.carryOut service) session).Orderly := by
    induction calls with
    | nil => exact fun _ h => h
    | cons call rest ih => exact fun session h => ih _ (h.carryOut service call)
  exact hcalls _ (ofStore_empty hsupply frameworks)

end Session.Orderly

/-- After any calls, the row of every job tells how its runs ended: its state and its stage are
those of the last end, a pending job is as it was made, a completed one has its result, and an error
is left exactly if some run failed. So the row fits its state exactly if a last run that completed
the job comes after none that failed, and a last run that was cancelled only after others that
were. -/
theorem row_tells_runs {service : Service} {supply : Supply}
    (hsupply : Function.Injective supply.name) {frameworks : Catalogue} {calls : List Call}
    {session : Session} (hsession : Session.afterCalls service supply frameworks calls = session)
    {name : String} {row : Job} (hrow : session.store.job? name = some row) :
    row.Recounts (endingsOf name session.milestones) ∧
      (row.IsConsistent ↔
        ((endingsOf name session.milestones).getLast? = some .completed →
          .failed ∉ endingsOf name session.milestones) ∧
        ((endingsOf name session.milestones).getLast? = some .cancelled →
          ∀ ending ∈ endingsOf name session.milestones, ending = .cancelled)) := by
  have horderly : session.Orderly := hsession ▸ .afterCalls service hsupply frameworks calls
  obtain ⟨-, -, hrecounts⟩ := horderly.jobs name row hrow
  exact ⟨hrecounts, hrecounts.isConsistent_iff⟩

/-- Names and moments that are tallied. -/
def Supply.tally : Supply where
  name n := String.ofList (List.replicate (n + 1) 'i')
  moment n := String.ofList (List.replicate (n + 1) 't')

/-- Names that are tallied are distinct. -/
theorem Supply.tally_injective : Function.Injective Supply.tally.name := by
  intro first second hnames
  have hlists := congrArg (·.toList.length) hnames
  simpa [tally] using hlists

/-- Calls that make a job and run it twice, with some other calls before each run. -/
def Call.twice (first second : List Call) : List Call :=
  [.createProject .standard (.str "Shop") [],
      .createJob "i" (.str "react") (.str "flutter") (.str "frontend") standardOptions] ++
    first ++ [.run "ii"] ++ second ++ [.run "ii"]

/-- A job that is completed, and cancelled when it is run again, keeps its result, and its row does
not fit its state. -/
theorem row_tells_runs_cancelled :
    ∃ session row,
      Session.afterCalls .sample .tally [] (Call.twice [] [.subscribe (.fickle "ii")]) = session ∧
      session.store.job? "ii" = some row ∧ row.Recounts [.completed, .cancelled] ∧
      ¬row.IsConsistent := by
  obtain ⟨session, hsession⟩ : ∃ session,
      Session.afterCalls .sample .tally [] (Call.twice [] [.subscribe (.fickle "ii")]) = session :=
    ⟨_, rfl⟩
  obtain ⟨row, hrow⟩ : ∃ row, session.store.job? "ii" = some row := by
    rw [← hsession]
    exact ⟨_, rfl⟩
  have hendings : endingsOf "ii" session.milestones = [.completed, .cancelled] := by
    rw [← hsession]
    rfl
  have htells := row_tells_runs Supply.tally_injective hsession hrow
  rw [hendings] at htells
  refine ⟨session, row, hsession, hrow, htells.1, fun hrowfits => ?_⟩
  have hall := (htells.2.mp hrowfits).2 rfl .completed List.mem_cons_self
  cases hall

/-- A listener that breaks off the work on every job when it is parsed. -/
def Listener.harsh : Listener where
  name := "clerk"
  react _ event :=
    match event.stage with
    | .parsing => [.raise "gone"]
    | _ => []

/-- A job that has failed and is completed when it is run again should have no error, and has
one. -/
theorem error_outlives_failure :
    let session := Session.afterCalls .sample .tally []
      (Call.twice [.subscribe .harsh] [.unsubscribe "clerk"])
    endingsOf "ii" session.milestones = [.failed, .completed] ∧
      (session.store.job? "ii").map (·.status) = some .completed ∧
      (session.store.job? "ii").map (·.error) = some (.str "gone") :=
  ⟨rfl, rfl, rfl⟩

end Restack.Jobs
