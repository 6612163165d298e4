import Restack.Proofs.Jobs.Course
import Restack.Proofs.Jobs.Steady

/-!
# What a run does to rows

A run overwrites some of the fields of the row of its job, and which of them depends on how it ends:
what is not overwritten stays as an earlier run left it. The rows of all other jobs stay as they
are, and every project keeps its name.
-/

namespace Restack.Jobs

/-- The result of a job tells that it succeeded. -/
def Job.TellsSuccess (row : Job) : Prop :=
  ∃ fields, row.result = .object fields ∧ fields.lookup "success" = some (.bool true)

/-- What is written into the row of a job by a run that ends in some way. A run that completes a job
says nothing of errors, and one that is cancelled neither of errors nor of a result. -/
structure Job.Ends (ending : Ending) (before after : Job) : Prop where
  id : after.id = before.id
  project : after.project = before.project
  status : after.status = ending.status
  stage : after.stage = ending.stage
  completed : ending = .completed →
    after.progress = .int 100 ∧ after.TellsSuccess ∧ after.error = before.error
  failed : ending = .failed → ∃ message, after.error = .str message
  cancelled : ending = .cancelled → after.result = before.result ∧ after.error = before.error

namespace Store

variable {store : Store} {name : String}

/-- No name is given out when a job changes. -/
@[simp] theorem supply_updateJob {change : Job → Job} :
    (store.updateJob name change).2.supply = store.supply := by
  unfold updateJob
  split <;> rfl

/-- No name is counted when a job changes. -/
@[simp] theorem named_updateJob {change : Job → Job} :
    (store.updateJob name change).2.named = store.named := by
  unfold updateJob
  split <;> rfl

/-- No name is given out when a project changes. -/
@[simp] theorem supply_updateProject {change : Project → Project} :
    (store.updateProject name change).2.supply = store.supply := by
  unfold updateProject
  split <;> rfl

/-- No name is counted when a project changes. -/
@[simp] theorem named_updateProject {change : Project → Project} :
    (store.updateProject name change).2.named = store.named := by
  unfold updateProject
  split <;> rfl

end Store

namespace Session

/-- From the session `before` to the session `after`, nothing has changed that is told by the store
outside of the row of one job: no name was given out, no other job was touched, and every project
has kept its name. -/
structure Elsewhere (name : String) (before after : Session) : Prop where
  supply : after.store.supply = before.store.supply
  named : after.store.named = before.store.named
  jobs : ∀ other, other ≠ name → after.store.job? other = before.store.job? other
  projects : ∀ key,
    (after.store.project? key).map (·.id) = (before.store.project? key).map (·.id)

namespace Elsewhere

variable {name : String} {before middle after : Session}

/-- Where the store is the same, nothing has changed elsewhere. -/
theorem of_store (h : after.store = before.store) : Elsewhere name before after :=
  ⟨by rw [h], by rw [h], fun _ _ => by rw [h], fun _ => by rw [h]⟩

/-- If nothing changes elsewhere in either of two stretches, nothing does in both. -/
theorem trans (hfirst : Elsewhere name before middle) (hsecond : Elsewhere name middle after) :
    Elsewhere name before after where
  supply := hsecond.supply.trans hfirst.supply
  named := hsecond.named.trans hfirst.named
  jobs other hother := (hsecond.jobs other hother).trans (hfirst.jobs other hother)
  projects key := (hsecond.projects key).trans (hfirst.projects key)

/-- A change of the job changes nothing elsewhere. -/
theorem updateJob (h : Elsewhere name before after) (change : Job → Job) :
    Elsewhere name before (after.updateJob name change) :=
  h.trans
    { supply := Store.supply_updateJob
      named := Store.named_updateJob
      jobs := fun _ hother => Store.job?_updateJob.trans (if_neg hother)
      projects := fun _ => by rw [project?_updateJob] }

/-- A change of a project that leaves its id changes nothing elsewhere. -/
theorem updateProject (h : Elsewhere name before after) (key : Value)
    {change : Project → Project} (hid : ∀ row, (change row).id = row.id) :
    Elsewhere name before (after.updateProject key change) := by
  have hids : ∀ other, ((after.updateProject key change).store.project? other).map (·.id) =
      (after.store.project? other).map (·.id) := map_updateProject (fun row _ => hid row) key
  refine h.trans ?_
  unfold Session.updateProject at *
  split
  · exact ⟨Store.supply_updateProject, Store.named_updateProject,
      fun _ _ => Store.job?_updateProject, hids⟩
  · exact of_store rfl

/-- Asking the clock makes no difference to the rows. -/
theorem now (h : Elsewhere name before after) : Elsewhere name before after.now.2 :=
  h.trans ⟨rfl, rfl, fun _ _ => rfl, fun _ => rfl⟩

/-- No step of a run touches anything elsewhere. -/
theorem steady (before : Session) (name : String) (project : Value) :
    Steady name project (before.Elsewhere name) where
  ofStore _ _ hstore h := h.trans (of_store hstore)
  now _ h := h.now
  job _ change _ h := h.updateJob change
  standing _ change hchange h := h.updateProject project fun row => by
    obtain ⟨_, _, hrow⟩ := hchange row
    rw [hrow]

/-- What was kept under a name still is, under the same. -/
theorem kept (h : Elsewhere name before after) {key : String} {project : Project}
    (hproject : before.store.project? key = some project) :
    ∃ project', after.store.project? key = some project' ∧ project'.id = project.id := by
  have hids := h.projects key
  rw [hproject] at hids
  exact Option.map_eq_some_iff.mp hids

/-- What is kept under a name was kept before, under the same. -/
theorem earlier (h : Elsewhere name before after) {key : String} {project : Project}
    (hproject : after.store.project? key = some project) :
    ∃ project', before.store.project? key = some project' ∧ project'.id = project.id := by
  have hids := h.projects key
  rw [hproject] at hids
  exact Option.map_eq_some_iff.mp hids.symm

end Elsewhere

/-- A job is kept for its project with the name, the result and the error that it had. -/
def Carries (session : Session) (name key : String) (job : Job) : Prop :=
  ∃ row project, session.Keeps name key row project ∧ row.id = job.id ∧ row.project = job.project ∧
    row.result = job.result ∧ row.error = job.error

/-- A run of a job has ended in some way, and its row was written as belongs to it. -/
def Ended (session : Session) (name : String) (job : Job) : Prop :=
  ∃ ending row, session.store.job? name = some row ∧ job.Ends ending row

end Session

namespace Work

variable {session : Session} {name key : String} {job : Job}

/-- A stage that is entered touches neither the result nor the error of its job. -/
theorem enter_carries (h : session.Carries name key job) (stage : Stage × Nat) :
    Leads (enter name (.str key) stage) session (fun _ after => after.Carries name key job)
      fun _ after => after.Carries name key job := by
  obtain ⟨row, project, hkeeps, hrow⟩ := h
  refine enter_leads (fun _ => ⟨row, project, hkeeps, hrow⟩) fun _ entered hrecorded => ?_
  obtain ⟨changed, moved, hkeeps'⟩ := hrecorded.keeps hkeeps rfl rfl
  have hafter : ∀ told, (entered.publish told).2.Carries name key job := fun told => by
    obtain ⟨_, hheard⟩ := Session.publish_heard told entered
    exact ⟨_, _, hkeeps'.of_store hheard.store, hrow⟩
  exact publish_leads hkeeps'.found (fun _ => hafter _) fun _ _ => hafter _

/-- The stages of a run touch neither the result nor the error of its job. -/
theorem stages_carries (service : Service) {project : Project}
    (hkeeps : session.Keeps name key job project) :
    Leads (stages service name job project) session (fun _ after => after.Carries name key job)
      fun _ after => after.Carries name key job := by
  refine stages_leads (fun _ now => now.Carries name key job)
    ⟨job, project, hkeeps, rfl, rfl, rfl, rfl⟩ ?_ ?_ (fun _ _ _ _ h _ => h) fun _ _ _ h => h
  · intro _ stage before _ h
    rw [hkeeps.named]
    exact enter_carries h stage
  · rintro _ before _ analysis - - ⟨row, project', hkeeps', hrow⟩
    obtain ⟨moved, hkeeps''⟩ :=
      hkeeps'.updateProject (fun row => { row with sourceStack := analysis.toValue }) rfl
    rw [hkeeps.named]
    exact .revise_str ⟨row, _, hkeeps'', hrow⟩

end Work

namespace Run

variable {session : Session} {name key : String} {job row : Job}

/-- Once a row tells how a run has ended, it stays so while the listeners are told. -/
theorem conclude_ended (ending : Ending) (hrow : session.store.job? name = some row)
    (hends : job.Ends ending row) :
    Leads (conclude name) session (fun _ after => after.Ended name job)
      fun _ after => after.Ended name job := by
  have hafter : (session.publish row).2.Ended name job := by
    obtain ⟨_, hheard⟩ := Session.publish_heard row session
    exact ⟨ending, row, hheard.store ▸ hrow, hends⟩
  exact conclude_leads hrow (fun _ => hafter) fun _ _ => hafter

/-- A run that fails writes its error. -/
theorem fail_ended (h : session.Carries name key job) (message : String) (result : Value) :
    Leads (fail name (.str key) message result) session (fun _ after => after.Ended name job)
      fun _ after => after.Ended name job := by
  obtain ⟨row, project, hkeeps, hid, hproject, -, -⟩ := h
  refine fail_leads fun settled hrecorded => ?_
  obtain ⟨moment, hrow⟩ := hrecorded.job row hkeeps.found
  exact conclude_ended .failed hrow
    { id := hid
      project := hproject
      status := rfl
      stage := rfl
      completed := by simp
      failed := fun _ => ⟨message, rfl⟩
      cancelled := by simp }

/-- A run that was cancelled leaves the result and the error of an earlier run behind. -/
theorem cancelled_ended (h : session.Carries name key job) :
    Leads (cancelled name (.str key)) session (fun _ after => after.Ended name job)
      fun _ after => after.Ended name job := by
  obtain ⟨row, project, hkeeps, hid, hproject, hresult, herror⟩ := h
  refine cancelled_leads fun settled hrecorded => ?_
  obtain ⟨moment, hrow⟩ := hrecorded.job row (hkeeps.of_store rfl).found
  exact conclude_ended .cancelled hrow
    { id := hid
      project := hproject
      status := rfl
      stage := rfl
      completed := by simp
      failed := by simp
      cancelled := fun _ => ⟨hresult, herror⟩ }

/-- A run with a result leaves the error of an earlier run behind. -/
theorem complete_ended (h : session.Carries name key job) (target : Value)
    {result : Conversion.Result} (hsuccess : result.success = true) :
    Leads (complete name (.str key) target result) session (fun _ after => after.Ended name job)
      fun _ after => after.Ended name job := by
  obtain ⟨row, project, hkeeps, hid, hproject, -, herror⟩ := h
  refine complete_leads fun settled _ hrecorded => ?_
  obtain ⟨moment, hrow⟩ := hrecorded.job row hkeeps.found
  exact conclude_ended .completed hrow
    { id := hid
      project := hproject
      status := rfl
      stage := rfl
      completed := fun _ => ⟨rfl, ⟨_, rfl, by rw [← hsuccess]; rfl⟩, herror⟩
      failed := by simp
      cancelled := by simp }

end Run

namespace Session

variable {session : Session} {name key : String} {job : Job} {project : Project}

/-- A run touches no job but its own, and renames no project. -/
theorem run_elsewhere (service : Service) (hkeeps : session.Keeps name key job project) :
    session.Elsewhere name (session.run service name).2 :=
  (Elsewhere.steady session name project.id).run (.of_store rfl)
    (Run.rows_of_found hkeeps.found hkeeps.aim hkeeps.kept)
    (fun _ _ _ _ _ h => h.updateProject _ fun _ => rfl)
    fun _ _ _ h => h.updateProject _ fun _ => rfl

/-- Every run of a job whose project is kept has its row written as belongs to how it ends. -/
theorem run_ended (service : Service) (hkeeps : session.Keeps name key job project) :
    (session.run service name).2.Ended name job :=
  Leads.always <| Run.job_leads hkeeps (Work.stages_carries service hkeeps)
    (fun _ _ h hsuccess => Run.complete_ended h job.target hsuccess)
    (fun result _ message h _ => Run.fail_ended h message result.toValue)
    (fun _ h => Run.cancelled_ended h)
    fun message _ h => Run.fail_ended h message .null

/-- A job that is not there cannot be run. -/
theorem run_of_missing (service : Service) (hnone : session.store.job? name = none) :
    (session.run service name).2 = session := by
  have hrows := Run.rows_run session name
  simp only [hnone] at hrows
  exact congrArg Prod.snd (Run.job_of_unfound hrows)

end Session

end Restack.Jobs
