import Restack.Analysis.Detection
import Restack.Jobs.Framework
import Restack.Jobs.Row

/-!
# The store

Projects, jobs and frameworks. A row is kept under the name that it was given when it was made;
every change of a row is marked with the moment of the change.
-/

namespace Restack.Jobs

/-- Where new names and moments are taken from. -/
structure Supply where
  /-- The names of rows, in the order in which they are given out. -/
  name : Nat → String
  /-- What the clock says, each time that it is asked. -/
  moment : Nat → String

/-- Projects, jobs and frameworks. -/
structure Store where
  supply : Supply
  /-- How many names have been given out. -/
  named : Nat
  /-- How often the clock has been asked. -/
  ticks : Nat
  projects : List (String × Project)
  jobs : List (String × Job)
  frameworks : Catalogue

/-- The options of a job that is made without any. -/
def standardOptions : Value :=
  .object
    [("preserveStructure", .bool true), ("maintainState", .bool true),
      ("addTypeAnnotations", .bool true), ("convertApiCalls", .bool true)]

namespace Store

/-- A store without projects and jobs. -/
def empty (supply : Supply) (frameworks : Catalogue) : Store :=
  ⟨supply, 0, 0, [], [], frameworks⟩

/-- Asks the clock. -/
def now (store : Store) : Value × Store :=
  (.str (store.supply.moment store.ticks), { store with ticks := store.ticks + 1 })

/-- Gives out a name. -/
def newName (store : Store) : String × Store :=
  (store.supply.name store.named, { store with named := store.named + 1 })

/-- The project that is kept under a name. -/
def project? (store : Store) (name : String) : Option Project := store.projects.lookup name

/-- The job that is kept under a name. -/
def job? (store : Store) (name : String) : Option Job := store.jobs.lookup name

/-- All projects. -/
def allProjects (store : Store) : List Project := store.projects.map (·.2)

/-- The jobs of a project. -/
def jobsOf (store : Store) (project : Value) : List Job :=
  (store.jobs.map (·.2)).filter (·.project == project)

/-- Makes a project of files and finds out what they are made of. -/
def createProject (tables : Analysis.Tables) (name : Value) (files : List Value) (store : Store) :
    Except Fault (Project × Store) := do
  let analysis ← Analysis.analyze tables files
  let (moment, store) := store.now
  let (id, store) := store.newName
  let project : Project :=
    { id := .str id, name, sourceStack := analysis.toValue, targetStack := .null,
      files := .list files, convertedFiles := .null, status := .analyzed, progress := .int 0,
      createdAt := moment, updatedAt := moment, more := [] }
  return (project, { store with projects := Value.setField id project store.projects })

/-- Changes the project that is kept under a name. -/
def updateProject (name : String) (change : Project → Project) (store : Store) :
    Option Project × Store :=
  match store.project? name with
  | none => (none, store)
  | some project =>
    let (moment, store) := store.now
    let project := { change project with updatedAt := moment }
    (some project, { store with projects := Value.setField name project store.projects })

/-- Deletes the project that is kept under a name, and tells whether there was one. -/
def deleteProject (name : String) (store : Store) : Bool × Store :=
  ((store.project? name).isSome,
    { store with projects := store.projects.filter (·.1 != name) })

/-- Makes a job for the project that is kept under a name. -/
def createJob (project : String) (source target layer options : Value) (store : Store) :
    Option (Job × Store) :=
  match store.project? project with
  | none => none
  | some _ =>
    let (moment, store) := store.now
    let (id, store) := store.newName
    let job : Job :=
      { id := .str id, project := .str project, source, target, layer, options, status := .pending,
        stage := .pending, progress := .int 0, result := .null, error := .null, createdAt := moment,
        updatedAt := moment, more := [] }
    some (job, { store with jobs := Value.setField id job store.jobs })

/-- Changes the job that is kept under a name. -/
def updateJob (name : String) (change : Job → Job) (store : Store) : Option Job × Store :=
  match store.job? name with
  | none => (none, store)
  | some job =>
    let (moment, store) := store.now
    let job := { change job with updatedAt := moment }
    (some job, { store with jobs := Value.setField name job store.jobs })

end Store

end Restack.Jobs
