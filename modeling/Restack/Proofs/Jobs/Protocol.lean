import Restack.Proofs.Jobs.Course
import Restack.Script.Reader

/-!
# The protocol of runs

Those who follow a run from outside see the stages in the order of the table, up to where the run
ends, and then one event for the end. The rows tell the same.
-/

namespace Restack.Jobs

/-- More is done of a job with each stage. -/
theorem Stage.table_increasing : (Stage.table.map (·.2)).Pairwise (· < ·) := by decide

/-- More is done of a job with each stage that a run enters. -/
theorem Stage.increasing_of_initial {stages : List (Stage × Nat)} (h : stages <+: Stage.table) :
    (stages.map (·.2)).Pairwise (· < ·) :=
  Stage.table_increasing.sublist (h.map _).sublist

/-- What is done of a job of which nothing was done before. -/
theorem Stage.reached_zero (stages : List (Stage × Nat)) :
    Stage.reached (.int 0) stages = .ofNat ((stages.map (·.2)).getLastD 0) := by
  rcases stages.eq_nil_or_concat with rfl | ⟨rest, stage, rfl⟩
  · rfl
  · simp

/-- Whatever the listeners do, and whether the run has a result or is broken off by the last
message, the rows of the job and its project tell that the run has ended. What was published in the
meantime is an initial part of the stages, with more done of the job at each of them, and then the
end: only after all stages is the job completed. Otherwise the last event tells as much as the last
stage did, or what was done of the job before, which is nothing for a job that was just made. -/
theorem run_follows_stages {service : Service} {session after : Session}
    {answer : Except RunFlaw Job} {name key : String} {job : Job} {project : Project}
    (hkeeps : session.Keeps name key job project)
    (hrun : session.run service name = (answer, after)) :
    ∃ (ending : Ending) (stages : List (Stage × Nat)) (since : List Milestone),
      (∃ row, after.store.job? name = some row ∧ row.status = ending.status) ∧
      (∃ row, after.store.project? key = some row ∧ row.status = ending.standing) ∧
      after.milestones = session.milestones ++ since ∧
      eventsIn since = stages.map (Event.atStage job.id) ++
        [ending.event job.id (Stage.reached job.progress stages)] ∧
      stages <+: Stage.table ∧ (ending = .completed → stages = Stage.table) ∧
      (stages.map (·.2)).Pairwise (· < ·) ∧
      (job.progress = .int 0 →
        Stage.reached job.progress stages = .ofNat ((stages.map (·.2)).getLastD 0)) := by
  obtain ⟨ending, stages, since, hcourse⟩ := Session.run_course service hkeeps
  rw [hrun] at hcourse
  obtain ⟨row, project', hkeeps', hstatus, hstanding⟩ := hcourse.rows
  refine ⟨ending, stages, since, ⟨row, hkeeps'.found, hstatus⟩, ⟨project', hkeeps'.kept, hstanding⟩,
    hcourse.milestones, hcourse.events,
    hcourse.isPrefix, hcourse.complete, Stage.increasing_of_initial hcourse.isPrefix, ?_⟩
  intro hprogress
  rw [hprogress, Stage.reached_zero]

/-- A project without files. -/
def Project.sample : Project where
  id := .str "shop"
  name := .str "Shop"
  sourceStack := .null
  targetStack := .null
  files := .list []
  convertedFiles := .null
  status := .analyzed
  progress := .int 0
  createdAt := .str "Monday"
  updatedAt := .str "Monday"
  more := []

/-- A job for the project without files. -/
def Job.sample : Job where
  id := .str "port"
  project := .str "shop"
  source := .str "react"
  target := .str "flutter"
  layer := .str "frontend"
  options := standardOptions
  status := .pending
  stage := .pending
  progress := .int 0
  result := .null
  error := .null
  createdAt := .str "Tuesday"
  updatedAt := .str "Tuesday"
  more := []

/-- A service whose clock stands still. -/
def Service.sample : Service :=
  .standard Script.parse ⟨2024, 1, 15, 12, 0, 0, 0⟩

/-- A session with the project without files, the job for it, and one listener. -/
def Session.sample (listener : Listener) : Session :=
  let store : Store :=
    { supply := ⟨fun n => "row " ++ toString n, fun n => "tick " ++ toString n⟩, named := 2,
      ticks := 2, projects := [("shop", .sample)], jobs := [("port", .sample)], frameworks := [] }
  { ofStore store with listeners := [listener] }

/-- The session has its one job and its one project, whoever listens. -/
theorem Session.sample_keeps (listener : Listener) :
    (Session.sample listener).Keeps "port" "shop" .sample .sample :=
  ⟨rfl, rfl, rfl, rfl⟩

/-- A listener that asks for a job to be cancelled when it is parsed, and breaks off the message
that it was cancelled. -/
def Listener.fickle (job : String) : Listener where
  name := "clerk"
  react _ event :=
    match event.stage with
    | .parsing => [.cancel job]
    | .cancelled => [.raise "gone"]
    | _ => []

/-- A run that a listener cancels, with a last message that the listener breaks off. -/
theorem run_follows_stages_fickle :
    ∃ answer after, (Session.sample (.fickle "port")).run .sample "port" = (answer, after) ∧
    ∃ (ending : Ending) (stages : List (Stage × Nat)) (since : List Milestone),
      (∃ row, after.store.job? "port" = some row ∧ row.status = ending.status) ∧
      (∃ row, after.store.project? "shop" = some row ∧ row.status = ending.standing) ∧
      after.milestones = (Session.sample (.fickle "port")).milestones ++ since ∧
      eventsIn since = stages.map (Event.atStage (.str "port")) ++
        [ending.event (.str "port") (.ofNat ((stages.map (·.2)).getLastD 0))] ∧
      stages <+: Stage.table := by
  obtain ⟨answer, after, hrun⟩ : ∃ answer after,
      (Session.sample (.fickle "port")).run .sample "port" = (answer, after) :=
    ⟨_, _, (Prod.eta _).symm⟩
  obtain ⟨ending, stages, since, hrow, hproject, hsince, hevents, hstages, -, -, hreached⟩ :=
    run_follows_stages (Session.sample_keeps _) hrun
  rw [hreached rfl] at hevents
  exact ⟨answer, after, hrun, ending, stages, since, hrow, hproject, hsince, hevents, hstages⟩

end Restack.Jobs
