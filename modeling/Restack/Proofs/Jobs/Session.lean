import Restack.Jobs.Runner
import Restack.Proofs.Value.Entries

/-!
# Sessions after a change

What is found under a name after a row was written, and what else a written row leaves as it is. An
action of a session either has a value or is broken off; `Leads` says what holds in both cases, and
the rules for it follow the way in which actions are put together.
-/

namespace Restack.Jobs

namespace Store

variable {store : Store} {name other : String}

/-- A changed job is found under its name with the moment of the change; no other job is touched. -/
theorem job?_updateJob {change : Job → Job} :
    (store.updateJob name change).2.job? other =
      if other = name then
        (store.job? name).map fun row => { change row with updatedAt := store.now.1 }
      else store.job? other := by
  unfold updateJob
  cases hrow : store.job? name with
  | none => by_cases h : other = name <;> simp [h, hrow]
  | some row => exact Value.lookup_setField name other _ store.jobs

/-- A changed project is found under its name with the moment of the change; no other project is
touched. -/
theorem project?_updateProject {change : Project → Project} :
    (store.updateProject name change).2.project? other =
      if other = name then
        (store.project? name).map fun row => { change row with updatedAt := store.now.1 }
      else store.project? other := by
  unfold updateProject
  cases hrow : store.project? name with
  | none => by_cases h : other = name <;> simp [h, hrow]
  | some row => exact Value.lookup_setField name other _ store.projects

/-- A change of a job leaves the projects of the store. -/
@[simp] theorem project?_updateJob {change : Job → Job} :
    (store.updateJob name change).2.project? other = store.project? other := by
  unfold updateJob
  split <;> rfl

/-- A change of a project leaves the jobs of the store. -/
@[simp] theorem job?_updateProject {change : Project → Project} :
    (store.updateProject name change).2.job? other = store.job? other := by
  unfold updateProject
  split <;> rfl

end Store

namespace Session

variable {session : Session} {name : String} {key : Value}

/-- A job and its project are kept under their own names. -/
structure Keeps (session : Session) (name key : String) (job : Job) (project : Project) : Prop where
  found : session.store.job? name = some job
  aim : job.project = .str key
  kept : session.store.project? key = some project
  named : project.id = .str key

/-- A change of a project leaves those who listen. -/
@[simp] theorem listeners_updateProject {change : Project → Project} :
    (session.updateProject key change).listeners = session.listeners := by
  unfold updateProject
  split <;> rfl

/-- A change of a project leaves the requests to cancel. -/
@[simp] theorem cancelling_updateProject {change : Project → Project} :
    (session.updateProject key change).cancelling = session.cancelling := by
  unfold updateProject
  split <;> rfl

/-- A change of a project is no milestone. -/
@[simp] theorem milestones_updateProject {change : Project → Project} :
    (session.updateProject key change).milestones = session.milestones := by
  unfold updateProject
  split <;> rfl

/-- A change of a project leaves the jobs of the session. -/
@[simp] theorem job?_updateProject {change : Project → Project} {other : String} :
    (session.updateProject key change).store.job? other = session.store.job? other := by
  unfold updateProject
  split
  · exact Store.job?_updateProject
  · rfl

/-- A change of a job leaves the projects of the session. -/
@[simp] theorem project?_updateJob {change : Job → Job} {other : String} :
    (session.updateJob name change).store.project? other = session.store.project? other :=
  Store.project?_updateJob

/-- The session `after` comes from `before` by a change of a job and its project, and nothing else.
Each row is marked with the moment of its change. -/
structure Recorded (name key : String) (job : Job → Job) (change : Project → Project)
    (before after : Session) : Prop where
  job : ∀ row, before.store.job? name = some row →
    ∃ moment, after.store.job? name = some { job row with updatedAt := moment }
  project : ∀ row, before.store.project? key = some row →
    ∃ moment, after.store.project? key = some { change row with updatedAt := moment }
  milestones : after.milestones = before.milestones
  cancelling : after.cancelling = before.cancelling
  listeners : after.listeners = before.listeners

/-- The two rows are changed one after the other. In `middle`, after the first change, the clock may
have been asked. -/
theorem recorded_update {name key : String} {job : Job → Job} {change : Project → Project}
    {session middle : Session}
    (hjob : middle.store.job? name = (session.updateJob name job).store.job? name)
    (hproject : middle.store.project? key = (session.updateJob name job).store.project? key)
    (hmilestones : middle.milestones = session.milestones)
    (hcancelling : middle.cancelling = session.cancelling)
    (hlisteners : middle.listeners = session.listeners) :
    Recorded name key job change session (middle.updateProject (.str key) change) where
  job row hrow := by
    refine ⟨session.store.now.1, ?_⟩
    rw [job?_updateProject, hjob, updateJob, Store.job?_updateJob, if_pos rfl, hrow]
    rfl
  project row hrow := by
    refine ⟨middle.store.now.1, ?_⟩
    change (middle.store.updateProject key change).2.project? key = _
    rw [Store.project?_updateProject, if_pos rfl, hproject, project?_updateJob, hrow]
    rfl
  milestones := by rw [milestones_updateProject, hmilestones]
  cancelling := by rw [cancelling_updateProject, hcancelling]
  listeners := by rw [listeners_updateProject, hlisteners]

/-- Rows that are changed, but neither turned to another project nor renamed, are kept as before. -/
theorem Recorded.keeps {name key : String} {job : Job → Job} {change : Project → Project}
    {before after : Session} {row : Job} {project : Project}
    (h : Recorded name key job change before after) (hkeeps : before.Keeps name key row project)
    (hproject : (job row).project = row.project) (hid : (change project).id = project.id) :
    ∃ changed moved, after.Keeps name key { job row with updatedAt := changed }
      { change project with updatedAt := moved } := by
  obtain ⟨changed, hrow⟩ := h.job row hkeeps.found
  obtain ⟨moved, hmoved⟩ := h.project project hkeeps.kept
  exact ⟨changed, moved, hrow, hproject.trans hkeeps.aim, hmoved, hid.trans hkeeps.named⟩

/-- A project that is changed, but not renamed, is kept as before. -/
theorem Keeps.updateProject {name key : String} {session : Session} {row : Job} {project : Project}
    (h : session.Keeps name key row project) (change : Project → Project)
    (hid : (change project).id = project.id) :
    ∃ moved, (session.updateProject (.str key) change).Keeps name key row
      { change project with updatedAt := moved } := by
  refine ⟨session.store.now.1, ?_, h.aim, ?_, hid.trans h.named⟩
  · rw [job?_updateProject]
    exact h.found
  · change (session.store.updateProject key change).2.project? key = _
    rw [Store.project?_updateProject, if_pos rfl, h.kept]
    rfl

/-- The rows are kept as long as the store stays the same. -/
theorem Keeps.of_store {name key : String} {before after : Session} {row : Job} {project : Project}
    (h : before.Keeps name key row project) (hstore : after.store = before.store) :
    after.Keeps name key row project :=
  ⟨hstore ▸ h.found, h.aim, hstore ▸ h.kept, h.named⟩

end Session

/-- What an action that begins in a session leads to: `good` holds of its value and the session
after it, or `bad` of what broke it off. -/
def Leads {ε α : Type} (action : ExceptT ε (StateM Session) α) (session : Session)
    (good : α → Session → Prop) (bad : ε → Session → Prop) : Prop :=
  match action.run session with
  | (.ok a, after) => good a after
  | (.error cause, after) => bad cause after

namespace Leads

variable {ε α β : Type} {action : ExceptT ε (StateM Session) α}
  {next : α → ExceptT ε (StateM Session) β} {session : Session}
  {good : β → Session → Prop} {bad : ε → Session → Prop}

/-- The first action decides with which value and in which session the second one begins. -/
theorem run_bind :
    (action >>= next).run session =
      match action.run session with
      | (.ok a, after) => (next a).run after
      | (.error cause, after) => (.error cause, after) := by
  change (match action.run session with
    | (outcome, after) => ExceptT.bindCont next outcome after) = _
  obtain ⟨outcome, after⟩ := action.run session
  cases outcome <;> rfl

/-- An action that looks at the session first goes on from there. -/
theorem run_get {next : Session → ExceptT ε (StateM Session) β} :
    (do next (← get)).run session = (next session).run session := rfl

/-- One action after the other. -/
theorem bind (h : Leads action session (fun a after => Leads (next a) after good bad) bad) :
    Leads (action >>= next) session good bad := by
  unfold Leads at *
  rw [run_bind]
  revert h
  obtain ⟨outcome, after⟩ := action.run session
  cases outcome with
  | ok a => exact id
  | error cause => exact id

/-- An action that looks at the session first. -/
theorem get {next : Session → ExceptT ε (StateM Session) β}
    (h : Leads (next session) session good bad) : Leads (do next (← get)) session good bad :=
  bind h

/-- A change of the session, and an action after it. -/
theorem modify {change : Session → Session} {next : ExceptT ε (StateM Session) β}
    (h : Leads next (change session) good bad) :
    Leads (do modify change; next) session good bad :=
  bind h

/-- A change of the project that a value names, unless the value cannot be a name. -/
theorem revise {flaw : Fault → ε} {name : Value} {change : Project → Project}
    {good : Unit → Session → Prop}
    (hok : ∀ key, name.asKey = .ok key → good () (session.updateProject name change))
    (hfault : ∀ fault, name.asKey = .error fault → bad (flaw fault) session) :
    Leads (Session.reviseProject flaw name change) session good bad := by
  unfold Session.reviseProject
  cases hname : name.asKey with
  | ok key => exact hok key hname
  | error fault => exact hfault fault hname

/-- A change of the project that is kept under a name. -/
theorem revise_str {flaw : Fault → ε} {key : String} {change : Project → Project}
    {good : Unit → Session → Prop} (h : good () (session.updateProject (.str key) change)) :
    Leads (Session.reviseProject flaw (.str key) change) session good bad :=
  revise (fun _ _ => h) fun _ hfault => nomatch hfault

/-- What is weaker than what an action leads to. -/
theorem imp {good' : β → Session → Prop} {bad' : ε → Session → Prop}
    {action : ExceptT ε (StateM Session) β} (h : Leads action session good bad)
    (hgood : ∀ b after, good b after → good' b after)
    (hbad : ∀ cause after, bad cause after → bad' cause after) :
    Leads action session good' bad' := by
  unfold Leads at *
  revert h
  obtain ⟨outcome, after⟩ := action.run session
  cases outcome with
  | ok b => exact hgood b after
  | error cause => exact hbad cause after

/-- What holds however an action ends holds of the session after it. -/
theorem always {motive : Session → Prop} {action : ExceptT ε (StateM Session) β}
    (h : Leads action session (fun _ => motive) fun _ => motive) :
    motive (action.run session).2 := by
  unfold Leads at h
  revert h
  obtain ⟨outcome, after⟩ := action.run session
  cases outcome <;> exact id

/-- An action that nothing breaks off has a value. -/
theorem exists_ok {action : ExceptT ε (StateM Session) β}
    (h : Leads action session good fun _ _ => False) :
    ∃ b after, action.run session = (.ok b, after) ∧ good b after := by
  unfold Leads at h
  revert h
  obtain ⟨outcome, after⟩ := action.run session
  cases outcome with
  | ok b => exact fun h => ⟨b, after, rfl, h⟩
  | error cause => exact False.elim

end Leads

end Restack.Jobs
