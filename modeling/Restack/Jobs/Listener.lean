import Restack.Jobs.Row

/-!
# Listeners

A listener is told about each step of a job. It may ask for the job to be cancelled, come and go,
and break off the work. What it does may depend on all that has happened before.
-/

namespace Restack.Jobs

/-- What listeners are told about a job. -/
structure Event where
  job : Value
  stage : Stage
  progress : Value
  status : Status

/-- What a job has come to. -/
def Event.ofJob (job : Job) : Event := ⟨job.id, job.stage, job.progress, job.status⟩

/-- Something that has happened. -/
inductive Note where
  /-- A listener was told of an event. -/
  | heard (listener : String) (event : Event)
  /-- A listener asked for a job to be cancelled, and was granted it or not. -/
  | asked (listener : String) (granted : Bool)

/-- What everybody can see of the work on jobs, whoever listens. -/
inductive Milestone where
  /-- Those who listen were told of an event. -/
  | published (event : Event)
  /-- A request to cancel a job was granted. -/
  | granted (job : String)

/-- What a listener does when it is told of an event. -/
inductive Reaction where
  /-- Asks for a job to be cancelled. -/
  | cancel (job : String)
  /-- Has somebody listen from now on. -/
  | subscribe (name : String) (react : List Note → Event → List Reaction)
  /-- Has a listener go. -/
  | unsubscribe (name : String)
  /-- Breaks off what is being done. -/
  | raise (message : String)

/-- Somebody who is told about jobs. -/
structure Listener where
  name : String
  /-- What the listener does, after what has happened, when it is told of an event. -/
  react : List Note → Event → List Reaction

end Restack.Jobs
