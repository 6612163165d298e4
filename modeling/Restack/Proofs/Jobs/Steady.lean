import Restack.Proofs.Jobs.Endings

/-!
# What the steps of a run preserve

A run changes two rows in many small steps, and breaks off in many places. What each single step
preserves is there when the run is over, wherever that is. The steps are of few kinds: `Steady`
names the ones that all runs take. Two more are asked for one by one, since not all that is of
interest survives them: the analysis of the files at the first stage, and the result at the end.
-/

namespace Restack.Jobs

/-- What a job is and what it asks for. Work on the job changes the other fields of its row only. -/
def Job.order (row : Job) :
    Value × Value × Value × Value × Value × Value × Value × List (String × Value) :=
  (row.id, row.project, row.source, row.target, row.layer, row.options, row.createdAt, row.more)

namespace Session

/-- A property of sessions that is told by the store. -/
def OfStore (holds : Session → Prop) : Prop :=
  ∀ before after, after.store = before.store → holds before → holds after

/-- A property of sessions that is told by the store, and that survives changes of what the work on
a job has come to and of how its project stands. -/
structure Steady (name : String) (project : Value) (holds : Session → Prop) : Prop where
  ofStore : OfStore holds
  now : ∀ session, holds session → holds session.now.2
  job : ∀ session change, (∀ row, (change row).order = row.order) → holds session →
    holds (session.updateJob name change)
  standing : ∀ session change,
    (∀ row : Project, ∃ status progress, change row = { row with status, progress }) →
    holds session → holds (session.updateProject project change)

variable {session : Session}

/-- The order of a job is kept, whatever becomes of the job. -/
theorem order_updateJob {change : Job → Job} (horder : ∀ row, (change row).order = row.order)
    (name other : String) : ((session.updateJob name change).store.job? other).map Job.order =
      (session.store.job? other).map Job.order := by
  unfold updateJob
  rw [Store.job?_updateJob]
  split
  · rename_i hother
    rw [hother, Option.map_map]
    exact congrArg (Option.map · _) (funext horder)
  · rfl

/-- A change of a project that keeps something of it keeps it of all projects. -/
theorem map_updateProject {α : Type} {kept : Project → α} {change : Project → Project}
    (hkept : ∀ row moment, kept { change row with updatedAt := moment } = kept row)
    (project : Value) (key : String) :
    ((session.updateProject project change).store.project? key).map kept =
      (session.store.project? key).map kept := by
  unfold updateProject
  split
  · rw [Store.project?_updateProject]
    split
    · rename_i hkey
      rw [hkey, Option.map_map]
      exact congrArg (Option.map · _) (funext fun row => hkept row _)
    · rfl
  · rfl

end Session

section OfStore

variable {name : String} {holds : Session → Prop} {session : Session}

/-- Listeners do not touch the store. -/
theorem Session.OfStore.publish (h : OfStore holds) (hsession : holds session) (row : Job) :
    holds (session.publish row).2 := by
  obtain ⟨_, hheard⟩ := publish_heard row session
  exact h session _ hheard.store hsession

/-- What is told by the store holds on when a job is published, whoever listens. -/
theorem Work.publish_ofStore (h : Session.OfStore holds) (hsession : holds session) :
    Leads (publish name) session (fun _ => holds) fun _ => holds := by
  cases hrow : session.store.job? name with
  | none =>
    unfold publish
    apply Leads.get
    simp only [hrow]
    exact hsession
  | some row =>
    exact publish_leads hrow (fun _ => h.publish hsession row) fun _ _ => h.publish hsession row

/-- What is told by the store holds on when a run is concluded. -/
theorem Run.conclude_ofStore (h : Session.OfStore holds) (hsession : holds session) :
    Leads (conclude name) session (fun _ => holds) fun _ => holds := by
  cases hrow : session.store.job? name with
  | none =>
    unfold conclude
    apply Leads.get
    simp only [hrow]
    exact hsession
  | some row =>
    exact conclude_leads hrow (fun _ => h.publish hsession row) fun _ _ => h.publish hsession row

/-- A run that comes to a result says so in the row of its job, whatever becomes of it then. -/
theorem Run.complete_completed (project target : Value) (result : Conversion.Result) :
    Leads (complete name project target result) session
      (fun _ after => ∀ row, after.store.job? name = some row → row.status = .completed)
      fun _ after => ∀ row, after.store.job? name = some row → row.status = .completed := by
  apply Leads.modify
  apply Leads.get
  apply Leads.modify
  have hcompleted : ∀ row, (session.updateJob name fun row =>
      { row with
        status := .completed, stage := .completed, progress := .int 100,
        result := result.toValue }).now.2.store.job? name = some row →
      row.status = .completed := by
    intro row hrow
    change (session.store.updateJob name _).2.job? name = some row at hrow
    rw [Store.job?_updateJob, if_pos rfl] at hrow
    obtain ⟨_, -, rfl⟩ := Option.map_eq_some_iff.mp hrow
    rfl
  refine .bind (.revise (fun _ _ => conclude_ofStore ?_ ?_) fun _ _ => hcompleted)
  · intro before after hstore h row hrow
    rw [hstore] at hrow
    exact h row hrow
  · intro row hrow
    rw [Session.job?_updateProject] at hrow
    exact hcompleted row hrow

end OfStore

namespace Session.Steady

variable {name : String} {project : Value} {holds : Session → Prop} {session : Session}

/-- What is steady holds on when a stage is entered. -/
theorem enter (h : Steady name project holds) (hsession : holds session) (stage : Stage × Nat) :
    Leads (Work.enter name project stage) session (fun _ => holds) fun _ => holds := by
  unfold Work.enter
  apply Leads.get
  cases session.cancelling.contains name with
  | true =>
    simp only [if_true]
    exact hsession
  | false =>
    simp only [Bool.false_eq_true, if_false]
    apply Leads.modify
    have hjob := h.job session (fun row => { row with
      status := .processing, stage := stage.1, progress := .ofNat stage.2 })
      (fun _ => rfl) hsession
    refine .bind (.revise (fun _ _ => Work.publish_ofStore h.ofStore ?_) fun _ _ => hjob)
    exact h.standing _ _ (fun _ => ⟨_, _, rfl⟩) hjob

/-- A run that does not come to a result touches neither what the job asks for nor what is known of
its project. -/
theorem record (h : Steady name project holds) (hsession : holds session) {job : Job → Job}
    {change : Project → Project} (hjob : ∀ row, (job row).order = row.order)
    (hchange : ∀ row, ∃ status progress, change row = { row with status, progress }) :
    Leads (do Run.record name project job change; Run.conclude name) session (fun _ => holds)
      fun _ => holds := by
  have hrow := h.job session job hjob hsession
  refine .bind (.modify (.revise (fun _ _ => ?_) fun _ _ => hrow))
  exact Run.conclude_ofStore h.ofStore (h.standing _ change hchange hrow)

/-- What is steady holds on when a run fails. -/
theorem fail (h : Steady name project holds) (hsession : holds session) (message : String)
    (result : Value) :
    Leads (Run.fail name project message result) session (fun _ => holds) fun _ => holds :=
  h.record hsession (fun _ => rfl) fun _ => ⟨_, _, rfl⟩

/-- What is steady holds on when a run is cancelled. -/
theorem cancelled (h : Steady name project holds) (hsession : holds session) :
    Leads (Run.cancelled name project) session (fun _ => holds) fun _ => holds := by
  have hforgotten : holds (session.forget name) := h.ofStore session _ rfl hsession
  exact .modify (h.record hforgotten (fun _ => rfl) fun _ => ⟨_, _, rfl⟩)

variable {service : Service} {job : Job} {found : Project}

/-- The stages preserve what the analysis of the files preserves. -/
theorem stages (h : Steady name found.id holds) (hsession : holds session)
    (hfound : ∀ before files report, found.files.elements = .ok files →
      Analysis.analyze service.tables files = .ok report → holds before →
      holds (before.updateProject found.id fun row => { row with sourceStack := report.toValue })) :
    Leads (Work.stages service name job found) session (fun _ => holds) fun _ => holds := by
  refine Work.stages_leads (fun _ => holds) hsession (fun _ stage _ _ hbefore => ?_)
    (fun _ before files report hfiles hreport hbefore => ?_) (fun _ _ _ _ hbefore _ => hbefore)
    fun _ _ _ hafter => hafter
  · exact h.enter hbefore stage
  · exact .revise (fun _ _ => hfound before files report hfiles hreport hbefore) fun _ _ => hbefore

/-- What is steady holds on when a run is completed, if it survives that the project gets its files.
-/
theorem complete (h : Steady name project holds) (hsession : holds session)
    (hconverted : ∀ before files stack, holds before →
      holds (before.updateProject project fun row =>
        { row with
          status := .completed, progress := .int 100, convertedFiles := files,
          targetStack := stack }))
    (target : Value) (result : Conversion.Result) :
    Leads (Run.complete name project target result) session (fun _ => holds) fun _ => holds := by
  have hjob := h.now _ (h.job session (fun row => { row with
    status := .completed, stage := .completed, progress := .int 100, result := result.toValue })
    (fun _ => rfl) hsession)
  apply Leads.modify
  apply Leads.get
  apply Leads.modify
  refine .bind (.revise (fun _ _ => ?_) fun _ _ => hjob)
  exact Run.conclude_ofStore h.ofStore (hconverted _ _ _ hjob)

/-- A run preserves what the analysis of the files and its result preserve. -/
theorem run (h : Steady name found.id holds) (hsession : holds session)
    (hrows : (Run.rows name).run session = (.ok (job, found), session))
    (hfound : ∀ before files report, found.files.elements = .ok files →
      Analysis.analyze service.tables files = .ok report → holds before →
      holds (before.updateProject found.id fun row => { row with sourceStack := report.toValue }))
    (hconverted : ∀ before files stack, holds before →
      holds (before.updateProject found.id fun row =>
        { row with
          status := .completed, progress := .int 100, convertedFiles := files,
          targetStack := stack })) :
    holds (session.run service name).2 :=
  Leads.always <| Run.job_leads_of_rows hrows (h.stages hsession hfound)
    (fun result _ hafter _ => h.complete hafter hconverted job.target result)
    (fun result _ message hafter _ => h.fail hafter message result.toValue)
    (fun _ hafter => h.cancelled hafter)
    fun message _ hafter => h.fail hafter message .null

/-- A run that does not complete its job preserves what the analysis of the files preserves. -/
theorem run_of_unsuccessful (h : Steady name found.id holds) (hsession : holds session)
    (hrows : (Run.rows name).run session = (.ok (job, found), session))
    (hfound : ∀ before files report, found.files.elements = .ok files →
      Analysis.analyze service.tables files = .ok report → holds before →
      holds (before.updateProject found.id fun row => { row with sourceStack := report.toValue }))
    {row : Job} (hrow : (session.run service name).2.store.job? name = some row)
    (hstatus : row.status ≠ .completed) : holds (session.run service name).2 := by
  have hends : holds (session.run service name).2 ∨ ∀ row,
      (session.run service name).2.store.job? name = some row → row.status = .completed := by
    refine Leads.always
      (motive := fun after => holds after ∨
        ∀ row, after.store.job? name = some row → row.status = .completed)
      (Run.job_leads_of_rows hrows (h.stages hsession hfound) ?_ ?_ ?_ ?_)
    · intro result after _ _
      exact (Run.complete_completed found.id job.target result).imp (fun _ _ => .inr)
        fun _ _ => .inr
    · intro result after message hafter _
      exact (h.fail hafter message result.toValue).imp (fun _ _ => .inl) fun _ _ => .inl
    · intro after hafter
      exact (h.cancelled hafter).imp (fun _ _ => .inl) fun _ _ => .inl
    · intro message after hafter
      exact (h.fail hafter message .null).imp (fun _ _ => .inl) fun _ _ => .inl
  exact hends.resolve_right fun hcompleted => hstatus (hcompleted row hrow)

end Session.Steady

end Restack.Jobs
