import Restack.Conversion.Stages
import Restack.Jobs.Listener
import Restack.Jobs.Store

/-!
# Running jobs

A job is worked on stage by stage. At the beginning of each stage a request to cancel it is
honoured, its rows are brought up to date, and the listeners are told. However the work ends, the
rows tell how before the listeners are told of the end.
-/

namespace Restack.Jobs

open Restack.Text

/-- The store, those who listen, and the jobs that somebody asked to be cancelled. -/
structure Session where
  store : Store
  listeners : List Listener
  cancelling : List String
  /-- What has happened, in its order. -/
  log : List Note
  /-- What was published and which requests were granted, in their order. -/
  milestones : List Milestone

/-- What the work of a runner rests on. -/
structure Service where
  tables : Analysis.Tables
  /-- What gives scripts their syntax trees. -/
  parser : Script.Parser
  /-- The files of a converted project beside those of its nodes, from the names of the frameworks,
  the options, and the numbers of files and nodes. -/
  packaging : String → String → Value → Nat → Nat → Except Fault (List Target.File)

/-- The service that reads scripts with a parser and dates conversions with a moment. -/
def Service.standard (parser : Script.Parser) (moment : Time.Moment) : Service :=
  ⟨.standard, parser, fun source target options parsed nodes =>
    Conversion.projectFiles source target options parsed nodes moment⟩

/-- What breaks off the work on a job. -/
inductive Interruption where
  | cancelled
  | failure (message : String)
deriving DecidableEq, Repr

/-- Why running a job has no result. -/
inductive RunFlaw where
  | unknownJob (name : String)
  | unknownProject (name : Value)
  /-- The name of the project could not be used. -/
  | fault (reason : Fault)
  /-- A listener broke off the last message. -/
  | raised (message : String)

/-- The wording of a flaw. -/
def RunFlaw.message : RunFlaw → String
  | .unknownJob name => "Conversion job not found: " ++ name
  | .unknownProject name => "Project not found: " ++ name.display
  | .fault reason => reason.message
  | .raised message => message

namespace Session

/-- A session with a store and nobody listening. -/
def ofStore (store : Store) : Session := ⟨store, [], [], [], []⟩

/-- Writes down that something has happened. -/
def note (note : Note) (session : Session) : Session :=
  { session with log := session.log ++ [note] }

/-- Passes a milestone. -/
def pass (milestone : Milestone) (session : Session) : Session :=
  { session with milestones := session.milestones ++ [milestone] }

/-- Has somebody listen. -/
def subscribe (listener : Listener) (session : Session) : Session :=
  { session with listeners := session.listeners ++ [listener] }

/-- Has the listener with a name go: of several, the first. -/
def unsubscribe (name : String) (session : Session) : Session :=
  { session with listeners := session.listeners.eraseP (·.name == name) }

/-- Asks for a job to be cancelled. It is granted as long as the job has not ended. -/
def cancel (job : String) (session : Session) : Bool × Session :=
  match session.store.job? job with
  | none => (false, session)
  | some row =>
    if row.status.isOpen then
      let cancelling :=
        if session.cancelling.contains job then session.cancelling else job :: session.cancelling
      (true, { session with cancelling }.pass (.granted job))
    else (false, session)

/-- Forgets a request to cancel a job. -/
def forget (job : String) (session : Session) : Session :=
  { session with cancelling := session.cancelling.filter (· != job) }

/-- Does what a listener does, up to where it breaks off; then there is a message. -/
def perform (listener : String) : List Reaction → Session → Option String × Session
  | [], session => (none, session)
  | reaction :: rest, session =>
    match reaction with
    | .cancel job =>
      let (granted, session) := session.cancel job
      perform listener rest (session.note (.asked listener granted))
    | .subscribe name react => perform listener rest (session.subscribe ⟨name, react⟩)
    | .unsubscribe name => perform listener rest (session.unsubscribe name)
    | .raise message => (some message, session)

/-- Tells one listener of an event and does what it does. -/
def respond (event : Event) (listener : Listener) (session : Session) : Option String × Session :=
  let told := session.note (.heard listener.name event)
  told.perform listener.name (listener.react told.log event)

/-- Tells listeners of an event, one after the other, until one of them breaks off. -/
def tell (event : Event) : List Listener → Session → Option String × Session
  | [], session => (none, session)
  | listener :: rest, session =>
    match session.respond event listener with
    | (none, session) => tell event rest session
    | (some message, session) => (some message, session)

/-- Tells everybody who listens now what a job has come to. -/
def publish (job : Job) (session : Session) : Option String × Session :=
  (session.pass (.published (.ofJob job))).tell (.ofJob job) session.listeners

/-- Changes a job. -/
def updateJob (name : String) (change : Job → Job) (session : Session) : Session :=
  { session with store := (session.store.updateJob name change).2 }

/-- Changes the project that a value names, if it names one. -/
def updateProject (name : Value) (change : Project → Project) (session : Session) : Session :=
  match name with
  | .str name => { session with store := (session.store.updateProject name change).2 }
  | _ => session

/-- Asks the clock. -/
def now (session : Session) : Value × Session :=
  let (moment, store) := session.store.now
  (moment, { session with store })

/-- Changes the project that a value names, unless the value cannot be a name. -/
def reviseProject {ε : Type} (flaw : Fault → ε) (name : Value) (change : Project → Project) :
    ExceptT ε (StateM Session) Unit :=
  match name.asKey with
  | .error fault => throw (flaw fault)
  | .ok _ => modify (updateProject name change)

end Session

/-- A part of the work on a job: what it changes stays changed when it is broken off. -/
abbrev Work := ExceptT Interruption (StateM Session)

namespace Work

/-- Tells the listeners about the job that is kept under a name. -/
def publish (name : String) : Work Unit := do
  let session ← get
  match session.store.job? name with
  | none => return
  | some job =>
    let (broken, session) := session.publish job
    set session
    match broken with
    | none => return
    | some message => throw (.failure message)

/-- Changes the project that is worked on. -/
def revise (project : Value) (change : Project → Project) : Work Unit :=
  Session.reviseProject (fun fault => .failure fault.message) project change

/-- Begins a stage of the work on a job for a project. -/
def enter (job : String) (project : Value) (stage : Stage × Nat) : Work Unit := do
  if (← get).cancelling.contains job then throw .cancelled
  modify <| Session.updateJob job fun row =>
    { row with status := .processing, stage := stage.1, progress := .ofNat stage.2 }
  revise project fun row => { row with status := .converting, progress := .ofNat stage.2 }
  publish job

/-- A step that fails with the wording of a fault. -/
def attempt {α : Type} (step : Except Fault α) : Work α :=
  match step with
  | .ok a => return a
  | .error fault => throw (.failure fault.message)

/-- The work on a job, given the rows of the job and its project at the beginning. -/
def stages (service : Service) (name : String) (job : Job) (project : Project) :
    Work Conversion.Result := do
  let source := job.source.display
  enter name project.id (.analyzing, 10)
  let files ← attempt project.files.elements
  let analysis ← attempt (Analysis.analyze service.tables files)
  revise project.id fun row => { row with sourceStack := analysis.toValue }
  enter name project.id (.parsing, 25)
  let parsed ← attempt (Conversion.parseSources service.parser files)
  enter name project.id (.lowering, 50)
  let lowered ← attempt (Conversion.lowerReports source parsed.passed)
  enter name project.id (.emitting, 75)
  let target ← attempt (job.target.textFor "lower")
  let emitted ←
    attempt (Conversion.emitNodes target job.options (lowered.passed.map Ir.Node.toValue))
  enter name project.id (.packaging, 90)
  let more ←
    attempt
      (service.packaging source target job.options parsed.passed.length lowered.passed.length)
  let files := emitted.passed ++ more
  return ⟨!files.isEmpty, files, emitted.remarks, parsed.remarks ++ lowered.remarks⟩

end Work

/-- A run of a job: what it changes stays changed when it has no result. -/
abbrev Run := ExceptT RunFlaw (StateM Session)

namespace Run

/-- Changes the job that is run, and then its project. -/
def record (name : String) (project : Value) (job : Job → Job) (change : Project → Project) :
    Run Unit := do
  modify (Session.updateJob name job)
  Session.reviseProject .fault project change

/-- Tells the listeners how a run has ended, and gives the row of the job as it was told. -/
def conclude (name : String) : Run Job := do
  let session ← get
  match session.store.job? name with
  | none => throw (.unknownJob name)
  | some job =>
    let (broken, session) := session.publish job
    set session
    match broken with
    | none => return job
    | some message => throw (.raised message)

/-- Ends a run that has failed. -/
def fail (name : String) (project : Value) (message : String) (result : Value) : Run Job := do
  record name project
    (fun row => { row with status := .failed, stage := .failed, error := .str message, result })
    (fun row => { row with status := .failed })
  conclude name

/-- Ends a run that was cancelled. -/
def cancelled (name : String) (project : Value) : Run Job := do
  modify (Session.forget name)
  record name project
    (fun row => { row with status := .cancelled, stage := .cancelled })
    (fun row => { row with status := .analyzed })
  conclude name

/-- Ends a run with a result. -/
def complete (name : String) (project target : Value) (result : Conversion.Result) : Run Job := do
  modify <| Session.updateJob name fun row =>
    { row with
      status := .completed, stage := .completed, progress := .int 100, result := result.toValue }
  let (moment, session) := (← get).now
  set session
  Session.reviseProject .fault project fun row =>
    { row with
      status := .completed
      progress := .int 100
      convertedFiles := .list (result.files.map Target.File.toValue)
      targetStack := .object [("framework", target), ("convertedAt", moment)] }
  conclude name

/-- The job that is kept under a name, and the project that it is for. -/
def rows (name : String) : Run (Job × Project) := do
  let store := (← get).store
  match store.job? name with
  | none => throw (.unknownJob name)
  | some job =>
    match job.project.asKey with
    | .error reason => throw (.fault reason)
    | .ok key =>
      match key.bind store.project? with
      | none => throw (.unknownProject job.project)
      | some project => return (job, project)

/-- Runs the job that is kept under a name. -/
def job (service : Service) (name : String) : Run Job := do
  let (job, project) ← rows name
  let (outcome, session) := (Work.stages service name job project).run (← get)
  set session
  match outcome with
  | .error .cancelled => cancelled name project.id
  | .error (.failure message) => fail name project.id message .null
  | .ok result =>
    if result.success then complete name project.id job.target result
    else
      let reasons := joined ", " result.errors
      fail name project.id (if reasons.isEmpty then "Conversion failed" else reasons) result.toValue

end Run

/-- Runs the job that is kept under a name. -/
def Session.run (service : Service) (name : String) (session : Session) :
    Except RunFlaw Job × Session :=
  (Run.job service name).run session

end Restack.Jobs
