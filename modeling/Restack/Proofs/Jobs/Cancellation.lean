import Restack.Proofs.Jobs.Protocol

/-!
# What becomes of requests to cancel a job

A request is kept until it is honoured, and it is honoured at the entrance to a stage. One that is
granted after the last entrance outlives its run, and so does one whose run fails first: it is the
next run of the job that is cancelled.
-/

namespace Restack.Jobs

namespace Session

variable {session : Session} {name : String} {since : List Milestone}

/-- A request to cancel a job stood before a run, or was granted at one of the milestones of it. -/
def Requested (session : Session) (name : String) (since : List Milestone) : Prop :=
  name ∈ session.cancelling ∨ .granted name ∈ since

/-- A request to cancel a job stood before a run, or was granted in it before the last stage was
published. -/
def RequestedInTime (session : Session) (name : String) (since : List Milestone) : Prop :=
  name ∈ session.cancelling ∨ ∃ early late, since = early ++ .granted name :: late ∧
    ∀ event ∈ eventsIn early, event.stage ≠ .packaging

end Session

/-- A run has entered all stages if it has entered the last one. -/
theorem Stage.eq_table_of_packaging {stages : List (Stage × Nat)} (h : stages <+: Stage.table)
    (hlast : ∃ stage ∈ stages, stage.1 = .packaging) : stages = Stage.table := by
  obtain ⟨rest, hrest⟩ := h
  rcases rest.eq_nil_or_concat with rfl | ⟨others, last, rfl⟩
  · rw [← hrest, List.append_nil]
  · obtain ⟨stage, hmem, hstage⟩ := hlast
    have hinit : stages ++ others = Stage.table.dropLast := by
      rw [← hrest, List.concat_eq_append, ← List.append_assoc, List.dropLast_concat]
    have hfirst : stage ∈ Stage.table.dropLast := hinit ▸ List.mem_append_left _ hmem
    simp only [Stage.table, List.dropLast, List.mem_cons, List.not_mem_nil, or_false] at hfirst
    rcases hfirst with rfl | rfl | rfl | rfl <;> cases hstage

namespace Course

variable {start after : Session} {name key : String} {job : Job} {ending : Ending}
  {stages : List (Stage × Nat)} {since : List Milestone}

/-- A request from before a run cancels it. -/
theorem cancelled_of_mem (h : Course start name key job ending stages since after)
    (hmem : name ∈ start.cancelling) : ending = .cancelled := by
  by_cases hcancelled : ending = .cancelled
  · exact hcancelled
  · exact absurd hmem (h.fresh (h.begun hcancelled))

/-- What was published before a request was granted are the stages that the run entered. -/
theorem events_early (h : Course start name key job ending stages since after)
    {early late : List Milestone} (hsince : since = early ++ .granted name :: late) :
    eventsIn early = stages.map (Event.atStage job.id) := by
  have hevents := h.events
  have hlate : eventsIn (.granted name :: late) =
      [ending.event job.id (Stage.reached job.progress stages)] := h.prompt early late hsince
  rw [hsince, eventsIn_append, hlate] at hevents
  exact List.append_cancel_right hevents

/-- A run in which a job is requested to be cancelled before the last stage does not complete it. -/
theorem not_completed (h : Course start name key job ending stages since after)
    (hrequested : start.RequestedInTime name since) : ending ≠ .completed := by
  intro hcompleted
  rcases hrequested with hmem | ⟨early, late, hsince, hearly⟩
  · rw [h.cancelled_of_mem hmem] at hcompleted
    cases hcompleted
  · rw [h.events_early hsince, h.complete hcompleted] at hearly
    have hlast : Event.atStage job.id (.packaging, 90) ∈ Stage.table.map (Event.atStage job.id) :=
      List.mem_map_of_mem (by simp [Stage.table])
    exact hearly _ hlast rfl

/-- A run is only cancelled by a request in time. -/
theorem inTime_of_cancelled (h : Course start name key job ending stages since after)
    (hcancelled : ending = .cancelled) : start.RequestedInTime name since := by
  obtain ⟨hmem | hgranted, hstages⟩ := h.cancelled hcancelled
  · exact .inl hmem
  · obtain ⟨early, late, hsince⟩ := List.append_of_mem hgranted
    refine .inr ⟨early, late, hsince, fun event hevent hstage => hstages ?_⟩
    rw [h.events_early hsince] at hevent
    obtain ⟨stage, hstage', rfl⟩ := List.mem_map.mp hevent
    exact Stage.eq_table_of_packaging h.isPrefix ⟨stage, hstage', hstage⟩

end Course

/-- What becomes of a request to cancel a job, whatever the listeners do. The job does not complete
and the request is forgotten exactly if the run ends as cancelled. A request from before the run has
it end so; one that is granted before the last stage is published keeps the job from completing, and
unless the run fails it is just these requests that cancel it. Every other request outlives the run,
and cancels the next one. -/
theorem run_honours_requests {service : Service} {session after : Session}
    {answer : Except RunFlaw Job} {name key : String} {job : Job} {project : Project}
    (hkeeps : session.Keeps name key job project)
    (hrun : session.run service name = (answer, after)) :
    ∃ (ending : Ending) (since : List Milestone),
      (∃ row, after.store.job? name = some row ∧ row.status = ending.status) ∧
      after.milestones = session.milestones ++ since ∧
      (session.Requested name since →
        (ending ≠ .completed ∧ name ∉ after.cancelling ↔ ending = .cancelled)) ∧
      (name ∈ session.cancelling → ending = .cancelled) ∧
      (session.RequestedInTime name since → ending ≠ .completed) ∧
      (ending ≠ .failed → (ending = .cancelled ↔ session.RequestedInTime name since)) ∧
      (name ∈ after.cancelling ↔ session.Requested name since ∧ ending ≠ .cancelled) ∧
      (name ∈ after.cancelling → ∀ service answer next, after.run service name = (answer, next) →
        ∃ row, next.store.job? name = some row ∧ row.status = .cancelled) := by
  obtain ⟨ending, stages, since, hcourse⟩ := Session.run_course service hkeeps
  rw [hrun] at hcourse
  obtain ⟨row, project', hkeeps', hstatus, -⟩ := hcourse.rows
  refine ⟨ending, since, ⟨row, hkeeps'.found, hstatus⟩, hcourse.milestones, ?_,
    hcourse.cancelled_of_mem, hcourse.not_completed, ?_, hcourse.leftover, ?_⟩
  · intro hrequested
    have hleftover : name ∈ after.cancelling ↔ ending ≠ .cancelled := by
      rw [hcourse.leftover]
      exact and_iff_right hrequested
    rw [hleftover]
    cases ending <;> simp
  · intro hfailed
    refine ⟨hcourse.inTime_of_cancelled, fun hrequested => ?_⟩
    have hcompleted := hcourse.not_completed hrequested
    cases ending with
    | completed => exact absurd rfl hcompleted
    | failed => exact absurd rfl hfailed
    | cancelled => rfl
  -- To the next run, what is left over is a request from before.
  · intro hmem service answer next hnext
    obtain ⟨ending', _, _, hcourse'⟩ := Session.run_course service hkeeps'
    rw [hnext] at hcourse'
    obtain ⟨row', _, hkeeps'', hstatus', -⟩ := hcourse'.rows
    rw [hcourse'.cancelled_of_mem hmem] at hstatus'
    exact ⟨row', hkeeps''.found, hstatus'⟩

/-- A listener that asks for a job to be cancelled when it is packaged. -/
def Listener.late (job : String) : Listener where
  name := "clerk"
  react _ event :=
    match event.stage with
    | .packaging => [.cancel job]
    | _ => []

/-- A run with a listener that asks for the job to be cancelled at the last stage. -/
theorem run_honours_requests_late :
    ∃ answer after, (Session.sample (.late "port")).run .sample "port" = (answer, after) ∧
    ∃ (ending : Ending) (since : List Milestone),
      (∃ row, after.store.job? "port" = some row ∧ row.status = ending.status) ∧
      after.milestones = (Session.sample (.late "port")).milestones ++ since ∧
      ("port" ∈ after.cancelling ↔
        (Session.sample (.late "port")).Requested "port" since ∧ ending ≠ .cancelled) := by
  obtain ⟨answer, after, hrun⟩ : ∃ answer after,
      (Session.sample (.late "port")).run .sample "port" = (answer, after) :=
    ⟨_, _, (Prod.eta _).symm⟩
  obtain ⟨ending, since, hrow, hsince, -, -, -, -, hleftover, -⟩ :=
    run_honours_requests (Session.sample_keeps _) hrun
  exact ⟨answer, after, hrun, ending, since, hrow, hsince, hleftover⟩

/-- The request of a listener at the last stage is granted, and nevertheless the job is completed.
The request is left over, and cancels the next run of the job. -/
theorem late_request_is_lost :
    let after := ((Session.sample (.late "port")).run .sample "port").2
    after.milestones = Stage.table.map (fun stage => .published (.atStage (.str "port") stage)) ++
      [.granted "port", .published (Ending.completed.event (.str "port") (.int 90))] ∧
    (after.store.job? "port").map (·.status) = some .completed ∧ after.cancelling = ["port"] ∧
    ((after.run .sample "port").2.store.job? "port").map (·.status) = some .cancelled :=
  ⟨rfl, rfl, rfl, rfl⟩

end Restack.Jobs
