import Restack.Proofs.Jobs.Stages

/-!
# How runs end

A run that finds its rows ends in one of three ways. In each of them the rows are written first, and
the listeners are told afterwards, so that a listener that breaks off leaves the written rows
behind.
-/

namespace Restack.Jobs

/-- The ways in which a run ends. -/
inductive Ending where
  | completed | failed | cancelled
deriving DecidableEq, Repr

namespace Ending

/-- The state of the job. -/
def status : Ending → Status
  | .completed => .completed
  | .failed => .failed
  | .cancelled => .cancelled

/-- The stage of the job. -/
def stage : Ending → Stage
  | .completed => .completed
  | .failed => .failed
  | .cancelled => .cancelled

/-- The state of the project: a project whose conversion was cancelled stands as before it. -/
def standing : Ending → Standing
  | .completed => .completed
  | .failed => .failed
  | .cancelled => .analyzed

/-- What is done of a job when it ends, if so much was done before. Only a completed job is done as
a whole. -/
def progress (ending : Ending) (before : Value) : Value :=
  match ending with
  | .completed => .int 100
  | _ => before

/-- What listeners are told of the end of a job. -/
def event (ending : Ending) (job before : Value) : Event :=
  ⟨job, ending.stage, ending.progress before, ending.status⟩

/-- A job that has ended cannot be cancelled any more. -/
@[simp] theorem isOpen_status (ending : Ending) : ending.status.isOpen = false := by
  cases ending <;> rfl

end Ending

namespace Session

/-- The run of a job that began as `row` has come to an end since `before`, in whatever way the
listeners took it. -/
structure Closed (ending : Ending) (name key : String) (row : Job) (before after : Session) :
    Prop where
  rows : ∃ row' project', after.Keeps name key row' project' ∧ row'.status = ending.status ∧
    project'.status = ending.standing
  milestones : ∃ granted : List String, name ∉ granted ∧ after.milestones =
    before.milestones ++ .published (ending.event row.id row.progress) :: granted.map .granted
  cancelling : name ∈ after.cancelling ↔ name ∈ before.cancelling ∧ ending ≠ .cancelled

end Session

namespace Run

variable {session : Session} {name key : String} {good : Job → Session → Prop}
  {bad : RunFlaw → Session → Prop}

/-- The listeners are told of a row that is kept, and one that breaks off takes the result away. -/
theorem conclude_leads {row : Job} (hrow : session.store.job? name = some row)
    (htold : (session.publish row).1 = none → good row (session.publish row).2)
    (hbroken : ∀ message, (session.publish row).1 = some message →
      bad (.raised message) (session.publish row).2) :
    Leads (conclude name) session good bad := by
  unfold conclude
  apply Leads.get
  simp only [hrow]
  revert htold hbroken
  obtain ⟨broken, after⟩ := session.publish row
  intro htold hbroken
  cases broken with
  | none => exact htold rfl
  | some message => exact hbroken message rfl

/-- A run that fails says so in both rows before anybody is told. -/
theorem fail_leads {message : String} {result : Value}
    (h : ∀ after, session.Recorded name key
      (fun row => { row with status := .failed, stage := .failed, error := .str message, result })
      (fun row => { row with status := .failed }) after → Leads (conclude name) after good bad) :
    Leads (fail name (.str key) message result) session good bad := by
  refine .bind (.modify (.revise_str ?_))
  exact h _ (Session.recorded_update rfl rfl rfl rfl rfl)

/-- A run that was cancelled forgets the request and says so in both rows before anybody is told. -/
theorem cancelled_leads
    (h : ∀ after, (session.forget name).Recorded name key
      (fun row => { row with status := .cancelled, stage := .cancelled })
      (fun row => { row with status := .analyzed }) after → Leads (conclude name) after good bad) :
    Leads (cancelled name (.str key)) session good bad := by
  apply Leads.modify
  refine .bind (.modify (.revise_str ?_))
  exact h _ (Session.recorded_update rfl rfl rfl rfl rfl)

/-- A run with a result writes it into both rows before anybody is told. -/
theorem complete_leads {target : Value} {result : Conversion.Result}
    (h : ∀ after moment, session.Recorded name key
      (fun row => { row with
        status := .completed, stage := .completed, progress := .int 100, result := result.toValue })
      (fun row => { row with
        status := .completed
        progress := .int 100
        convertedFiles := .list (result.files.map Target.File.toValue)
        targetStack := .object [("framework", target), ("convertedAt", moment)] }) after →
      Leads (conclude name) after good bad) :
    Leads (complete name (.str key) target result) session good bad := by
  apply Leads.modify
  apply Leads.get
  apply Leads.modify
  refine .bind (.revise_str ?_)
  exact h _ _ (Session.recorded_update rfl rfl rfl rfl rfl)

/-- Once the rows tell how a run has ended, nothing that listeners do makes a difference to it: a
request to cancel a job that has ended is not granted. -/
theorem conclude_closed {ending : Ending} {settled : Session} {row row' : Job} {project' : Project}
    (hkeeps : settled.Keeps name key row' project')
    (hevent : Event.ofJob row' = ending.event row.id row.progress)
    (hstanding : project'.status = ending.standing)
    (hmilestones : settled.milestones = session.milestones)
    (hcancelling : name ∈ settled.cancelling ↔ name ∈ session.cancelling ∧ ending ≠ .cancelled) :
    Leads (conclude name) settled (fun _ after => session.Closed ending name key row after)
      (fun _ after => session.Closed ending name key row after) := by
  obtain ⟨granted, hheard⟩ := Session.publish_heard row' settled
  have hstatus : row'.status = ending.status := congrArg Event.status hevent
  have hrefused : name ∉ granted := by
    intro hmem
    have hopen := hheard.isOpen name hmem row' hkeeps.found
    rw [hstatus, ending.isOpen_status] at hopen
    cases hopen
  have hclosed : session.Closed ending name key row (settled.publish row').2 := by
    refine ⟨⟨row', project', hkeeps.of_store hheard.store, hstatus, hstanding⟩,
      ⟨granted, hrefused, ?_⟩, ?_⟩
    · rw [hheard.milestones, Session.pass, hmilestones, hevent, List.append_assoc,
        List.singleton_append]
    · rw [hheard.cancelling]
      simp only [hrefused, or_false]
      exact hcancelling
  exact conclude_leads hkeeps.found (fun _ => hclosed) fun _ _ => hclosed

variable {row : Job} {project : Project}

/-- A run that fails ends as failed. -/
theorem fail_closed {message : String} {result : Value}
    (hkeeps : session.Keeps name key row project) :
    Leads (fail name (.str key) message result) session
      (fun _ after => session.Closed .failed name key row after)
      (fun _ after => session.Closed .failed name key row after) := by
  refine fail_leads fun settled hrecorded => ?_
  obtain ⟨_, _, hkeeps'⟩ := hrecorded.keeps hkeeps rfl rfl
  refine conclude_closed hkeeps' rfl rfl hrecorded.milestones ?_
  simp [hrecorded.cancelling]

/-- A run that was cancelled ends as cancelled, and its request is forgotten. -/
theorem cancelled_closed (hkeeps : session.Keeps name key row project) :
    Leads (cancelled name (.str key)) session
      (fun _ after => session.Closed .cancelled name key row after)
      (fun _ after => session.Closed .cancelled name key row after) := by
  refine cancelled_leads fun settled hrecorded => ?_
  obtain ⟨_, _, hkeeps'⟩ := hrecorded.keeps (hkeeps.of_store rfl) rfl rfl
  refine conclude_closed hkeeps' rfl rfl hrecorded.milestones ?_
  simp [hrecorded.cancelling, Session.forget]

/-- A run with a result ends as completed. -/
theorem complete_closed {target : Value} {result : Conversion.Result}
    (hkeeps : session.Keeps name key row project) :
    Leads (complete name (.str key) target result) session
      (fun _ after => session.Closed .completed name key row after)
      (fun _ after => session.Closed .completed name key row after) := by
  refine complete_leads fun settled moment hrecorded => ?_
  obtain ⟨_, _, hkeeps'⟩ := hrecorded.keeps hkeeps rfl rfl
  refine conclude_closed hkeeps' rfl rfl hrecorded.milestones ?_
  simp [hrecorded.cancelling]

/-- A run that finds its rows works through the stages, and ends in the way that belongs to how they
came out. -/
theorem job_leads_of_rows {service : Service} {job : Job}
    {finished : Conversion.Result → Session → Prop} {broken : Interruption → Session → Prop}
    (hrows : (rows name).run session = (.ok (job, project), session))
    (hstages : Leads (Work.stages service name job project) session finished broken)
    (hcomplete : ∀ result after, finished result after → result.success = true →
      Leads (complete name project.id job.target result) after good bad)
    (hunsuccessful : ∀ result after message, finished result after → result.success = false →
      Leads (fail name project.id message result.toValue) after good bad)
    (hcancelled : ∀ after, broken .cancelled after →
      Leads (cancelled name project.id) after good bad)
    (hfailure : ∀ message after, broken (.failure message) after →
      Leads (fail name project.id message .null) after good bad) :
    Leads (Run.job service name) session good bad := by
  unfold Run.job
  refine .bind ?_
  unfold Leads
  simp only [hrows]
  apply Leads.get
  unfold Leads at hstages
  revert hstages
  obtain ⟨outcome, after⟩ := (Work.stages service name job project).run session
  intro hstages
  apply Leads.modify
  cases outcome with
  | error cause =>
    cases cause with
    | cancelled => exact hcancelled after hstages
    | failure message => exact hfailure message after hstages
  | ok result =>
    cases hsuccess : result.success with
    | true =>
      simp only [hsuccess, if_true]
      exact hcomplete result after hstages hsuccess
    | false =>
      simp only [hsuccess, Bool.false_eq_true, if_false]
      exact hunsuccessful result after _ hstages hsuccess

/-- A run looks for the rows of a job and of its project, and changes nothing by it. -/
theorem rows_run (session : Session) (name : String) :
    (rows name).run session =
      (match session.store.job? name with
        | none => .error (.unknownJob name)
        | some job =>
          match job.project.asKey with
          | .error reason => .error (.fault reason)
          | .ok key =>
            match key.bind session.store.project? with
            | none => .error (.unknownProject job.project)
            | some project => .ok (job, project), session) := by
  unfold rows
  rw [Leads.run_get]
  cases hjob : session.store.job? name with
  | none =>
    simp only [hjob]
    rfl
  | some job =>
    cases haim : job.project.asKey with
    | error reason =>
      simp only [hjob, haim]
      rfl
    | ok key =>
      cases hproject : key.bind session.store.project? <;>
      · simp only [hjob, haim, hproject]
        rfl

/-- A run finds the rows of a job and of the project that the job is for. -/
theorem rows_of_found {job : Job} (hjob : session.store.job? name = some job)
    (haim : job.project = .str key) (hproject : session.store.project? key = some project) :
    (rows name).run session = (.ok (job, project), session) := by
  simp only [rows_run, hjob, haim, Value.asKey, Option.bind_some, hproject]

/-- A run that does not find its rows does nothing. -/
theorem job_of_unfound {service : Service} {flaw : RunFlaw}
    (hrows : (rows name).run session = (.error flaw, session)) :
    (Run.job service name).run session = (.error flaw, session) := by
  unfold Run.job
  rw [Leads.run_bind, hrows]

/-- A run of a job that is kept with its project works through the stages, and ends in the way that
belongs to how they came out. -/
theorem job_leads {service : Service} {job : Job} {finished : Conversion.Result → Session → Prop}
    {broken : Interruption → Session → Prop} (hkeeps : session.Keeps name key job project)
    (hstages : Leads (Work.stages service name job project) session finished broken)
    (hcomplete : ∀ result after, finished result after → result.success = true →
      Leads (complete name (.str key) job.target result) after good bad)
    (hunsuccessful : ∀ result after message, finished result after → result.success = false →
      Leads (fail name (.str key) message result.toValue) after good bad)
    (hcancelled : ∀ after, broken .cancelled after →
      Leads (cancelled name (.str key)) after good bad)
    (hfailure : ∀ message after, broken (.failure message) after →
      Leads (fail name (.str key) message .null) after good bad) :
    Leads (Run.job service name) session good bad := by
  rw [← hkeeps.named] at hcomplete hunsuccessful hcancelled hfailure
  exact job_leads_of_rows (rows_of_found hkeeps.found hkeeps.aim hkeeps.kept) hstages hcomplete
    hunsuccessful hcancelled hfailure

end Run

end Restack.Jobs
