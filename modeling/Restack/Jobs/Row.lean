import Restack.Value.Basic

/-!
# Rows of projects and jobs

What is kept of a project and of a job. A caller may overwrite any field of a row with any value,
and may add fields: the states that the work itself goes through have names, and every other value
is kept as it was given.
-/

namespace Restack.Jobs

/-- The state of a job. -/
inductive Status where
  | pending | processing | completed | failed | cancelled
  /-- A state that a caller made up. -/
  | other (value : Value)

namespace Status

/-- The state that a value stands for. -/
def ofValue : Value → Status
  | .str "pending" => .pending
  | .str "processing" => .processing
  | .str "completed" => .completed
  | .str "failed" => .failed
  | .str "cancelled" => .cancelled
  | value => .other value

/-- A state as it is reported. -/
def toValue : Status → Value
  | .pending => .str "pending"
  | .processing => .str "processing"
  | .completed => .str "completed"
  | .failed => .str "failed"
  | .cancelled => .str "cancelled"
  | .other value => value

/-- Whether a job in this state can still be cancelled. -/
def isOpen : Status → Bool
  | .pending | .processing => true
  | _ => false

end Status

/-- How far a job has come. -/
inductive Stage where
  | pending
  | analyzing | parsing | lowering | emitting | packaging
  | completed | failed | cancelled
  /-- A stage that a caller made up. -/
  | other (value : Value)

namespace Stage

/-- The stage that a value stands for. -/
def ofValue : Value → Stage
  | .str "pending" => .pending
  | .str "analyzing" => .analyzing
  | .str "parsing" => .parsing
  | .str "generating_uir" => .lowering
  | .str "emitting" => .emitting
  | .str "packaging" => .packaging
  | .str "completed" => .completed
  | .str "failed" => .failed
  | .str "cancelled" => .cancelled
  | value => .other value

/-- A stage as it is reported. -/
def toValue : Stage → Value
  | .pending => .str "pending"
  | .analyzing => .str "analyzing"
  | .parsing => .str "parsing"
  | .lowering => .str "generating_uir"
  | .emitting => .str "emitting"
  | .packaging => .str "packaging"
  | .completed => .str "completed"
  | .failed => .str "failed"
  | .cancelled => .str "cancelled"
  | .other value => value

/-- The stages of the work, in their order, each with what is then done of a hundred parts. -/
def table : List (Stage × Nat) :=
  [(.analyzing, 10), (.parsing, 25), (.lowering, 50), (.emitting, 75), (.packaging, 90)]

end Stage

/-- The state of a project. -/
inductive Standing where
  | analyzed | converting | completed | failed
  /-- A state that a caller made up. -/
  | other (value : Value)

namespace Standing

/-- The state that a value stands for. -/
def ofValue : Value → Standing
  | .str "analyzed" => .analyzed
  | .str "converting" => .converting
  | .str "completed" => .completed
  | .str "failed" => .failed
  | value => .other value

/-- A state as it is reported. -/
def toValue : Standing → Value
  | .analyzed => .str "analyzed"
  | .converting => .str "converting"
  | .completed => .str "completed"
  | .failed => .str "failed"
  | .other value => value

end Standing

/-- A row that is kept for a job. -/
structure Job where
  id : Value
  /-- The project whose files are converted. -/
  project : Value
  source : Value
  target : Value
  layer : Value
  options : Value
  status : Status
  stage : Stage
  progress : Value
  result : Value
  error : Value
  createdAt : Value
  updatedAt : Value
  /-- Fields that a caller added. -/
  more : List (String × Value)

namespace Job

/-- The row with one field overwritten. -/
def set (job : Job) (field : String × Value) : Job :=
  let value := field.2
  match field.1 with
  | "id" => { job with id := value }
  | "projectId" => { job with project := value }
  | "fromFramework" => { job with source := value }
  | "toFramework" => { job with target := value }
  | "layer" => { job with layer := value }
  | "options" => { job with options := value }
  | "status" => { job with status := .ofValue value }
  | "stage" => { job with stage := .ofValue value }
  | "progress" => { job with progress := value }
  | "result" => { job with result := value }
  | "error" => { job with error := value }
  | "createdAt" => { job with createdAt := value }
  | "updatedAt" => { job with updatedAt := value }
  | key => { job with more := Value.setField key value job.more }

/-- A job as it is reported. -/
def toValue (job : Job) : Value :=
  .object <|
    [("id", job.id), ("projectId", job.project), ("fromFramework", job.source),
      ("toFramework", job.target), ("layer", job.layer), ("options", job.options),
      ("status", job.status.toValue), ("stage", job.stage.toValue), ("progress", job.progress),
      ("result", job.result), ("error", job.error), ("createdAt", job.createdAt),
      ("updatedAt", job.updatedAt)] ++ job.more

end Job

/-- A row that is kept for a project. -/
structure Project where
  id : Value
  name : Value
  /-- What the files were found to be made of. -/
  sourceStack : Value
  /-- What the files have been converted to, and when. -/
  targetStack : Value
  files : Value
  convertedFiles : Value
  status : Standing
  progress : Value
  createdAt : Value
  updatedAt : Value
  /-- Fields that a caller added. -/
  more : List (String × Value)

namespace Project

/-- The row with one field overwritten. -/
def set (project : Project) (field : String × Value) : Project :=
  let value := field.2
  match field.1 with
  | "id" => { project with id := value }
  | "name" => { project with name := value }
  | "originalTechStack" => { project with sourceStack := value }
  | "targetTechStack" => { project with targetStack := value }
  | "files" => { project with files := value }
  | "convertedFiles" => { project with convertedFiles := value }
  | "status" => { project with status := .ofValue value }
  | "progress" => { project with progress := value }
  | "createdAt" => { project with createdAt := value }
  | "updatedAt" => { project with updatedAt := value }
  | key => { project with more := Value.setField key value project.more }

/-- A project as it is reported. -/
def toValue (project : Project) : Value :=
  .object <|
    [("id", project.id), ("name", project.name), ("originalTechStack", project.sourceStack),
      ("targetTechStack", project.targetStack), ("files", project.files),
      ("convertedFiles", project.convertedFiles), ("status", project.status.toValue),
      ("progress", project.progress), ("createdAt", project.createdAt),
      ("updatedAt", project.updatedAt)] ++ project.more

end Project

end Restack.Jobs
