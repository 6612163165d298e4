import Restack.Proofs.Jobs.Rows

/-!
# What rows tell of the past

A job may be run again and again. Its row tells how its last run ended, but what is left in the row
of earlier runs may contradict that: an error is never taken back by a run that completes the job,
and neither an error nor a result by one that is cancelled. The row of a job is consistent exactly
if its runs did not end in such an order.
-/

namespace Restack.Jobs

/-- The way to end that a state tells of, if a run ends in it. -/
def Ending.ofStatus? : Status → Option Ending
  | .completed => some .completed
  | .failed => some .failed
  | .cancelled => some .cancelled
  | _ => none

/-- How a run of a job ended, if an event tells the end of one. -/
def Event.ending? (name : String) (event : Event) : Option Ending :=
  match event.job with
  | .str job => if job = name then Ending.ofStatus? event.status else none
  | _ => none

/-- How the runs of a job ended, in their order. -/
def endingsOf (name : String) (milestones : List Milestone) : List Ending :=
  (eventsIn milestones).filterMap (Event.ending? name)

/-- The row of a job fits its state: nothing is done of a job that is pending, a completed one has a
result that tells of success and no error, a failed one has an error, and one that was cancelled has
neither a result nor an error. -/
structure Job.IsConsistent (row : Job) : Prop where
  pending : row.status = .pending →
    row.progress = .int 0 ∧ row.result = .null ∧ row.error = .null
  completed : row.status = .completed →
    row.stage = .completed ∧ row.progress = .int 100 ∧ row.error = .null ∧ row.TellsSuccess
  failed : row.status = .failed → row.stage = .failed ∧ row.error ≠ .null
  cancelled : row.status = .cancelled →
    row.stage = .cancelled ∧ row.result = .null ∧ row.error = .null

/-- A row tells how the runs of its job ended: the state and the stage are those of the last end,
there is an error once a run has failed, and a result that tells of success once a run has completed
the job, unless one has failed. -/
structure Job.Recounts (row : Job) (endings : List Ending) : Prop where
  status : row.status = (endings.getLast?.map Ending.status).getD .pending
  stage : ∀ ending, endings.getLast? = some ending → row.stage = ending.stage
  untouched : endings = [] → row.progress = .int 0
  done : endings.getLast? = some .completed → row.progress = .int 100 ∧ row.TellsSuccess
  error : .failed ∈ endings → ∃ message, row.error = .str message
  no_error : .failed ∉ endings → row.error = .null
  result : .completed ∈ endings → .failed ∉ endings → row.TellsSuccess
  no_result : (∀ ending ∈ endings, ending = .cancelled) → row.result = .null

/-- The ends of runs are told in the order of the milestones. -/
@[simp] theorem endingsOf_append (name : String) (first second : List Milestone) :
    endingsOf name (first ++ second) = endingsOf name first ++ endingsOf name second := by
  rw [endingsOf, eventsIn_append, List.filterMap_append]
  rfl

/-- Requests that are granted are no ends of runs. -/
@[simp] theorem endingsOf_granted (name : String) (jobs : List String) :
    endingsOf name (jobs.map .granted) = [] := by
  rw [endingsOf, eventsIn_granted]
  rfl

/-- No stage of a run is the end of one. -/
theorem ending?_atStage (name : String) (job : Value) (stage : Stage × Nat) :
    (Event.atStage job stage).ending? name = none := by
  unfold Event.ending? Event.atStage
  split
  · exact ite_self _
  · rfl

/-- The end of a run is told under the name of its job. -/
theorem ending?_event (name other : String) (ending : Ending) (progress : Value) :
    (ending.event (.str name) progress).ending? other =
      if name = other then some ending else none := by
  have hstatus : Ending.ofStatus? ending.status = some ending := by
    cases ending <;> rfl
  rw [Event.ending?, Ending.event]
  simp only [hstatus]

/-- A run ends once, and no other job ends with it. -/
theorem Course.endingsOf {start after : Session} {name key : String} {job : Job}
    {ending : Ending} {stages : List (Stage × Nat)} {since : List Milestone}
    (h : Course start name key job ending stages since after) (hid : job.id = .str name)
    (other : String) :
    endingsOf other since = if name = other then [ending] else [] := by
  have hstages : (stages.map (Event.atStage job.id)).filterMap (Event.ending? other) = [] := by
    rw [List.filterMap_map, List.filterMap_eq_nil_iff]
    exact fun stage _ => ending?_atStage other job.id stage
  rw [Jobs.endingsOf, h.events, List.filterMap_append, hstages, hid, List.nil_append,
    List.filterMap_cons, ending?_event]
  by_cases hother : name = other
  · simp [hother]
  · simp [hother]

/-- Each end of a run leaves another status. -/
theorem Ending.eq_of_status_eq {first second : Ending} (h : first.status = second.status) :
    first = second := by
  cases first <;> cases second <;> first | rfl | cases h

/-- A run has its row written as belongs to how it ends, and this end is all that is told of it. -/
theorem Session.run_told (service : Service) {session : Session} {name key : String} {job : Job}
    {project : Project} (hkeeps : session.Keeps name key job project) (hid : job.id = .str name) :
    ∃ ending row, (session.run service name).2.store.job? name = some row ∧
      job.Ends ending row ∧ ∀ other, endingsOf other (session.run service name).2.milestones =
        endingsOf other session.milestones ++ if name = other then [ending] else [] := by
  obtain ⟨ending, stages, since, hcourse⟩ := session.run_course service hkeeps
  obtain ⟨told, _, htold, hstatus, -⟩ := hcourse.rows
  obtain ⟨written, row, hrow, hends⟩ := session.run_ended service hkeeps
  have hsame : written = ending := by
    have hfound := htold.found
    rw [hrow, Option.some_inj] at hfound
    exact Ending.eq_of_status_eq (hends.status.symm.trans (hfound ▸ hstatus))
  refine ⟨ending, row, hrow, hsame ▸ hends, fun other => ?_⟩
  rw [hcourse.milestones, endingsOf_append, hcourse.endingsOf hid]

namespace Job

variable {row next : Job} {ending : Ending} {endings : List Ending}

/-- Only a run that fails says anything of errors. -/
theorem Ends.error_eq (h : row.Ends ending next) (hne : ending ≠ .failed) :
    next.error = row.error := by
  cases ending with
  | completed => exact (h.completed rfl).2.2
  | failed => exact absurd rfl hne
  | cancelled => exact (h.cancelled rfl).2

/-- A row that tells of the past tells of one more run after it. -/
theorem Recounts.snoc (h : row.Recounts endings) (hends : row.Ends ending next) :
    next.Recounts (endings ++ [ending]) where
  status := by
    rw [List.getLast?_concat, hends.status]
    rfl
  stage last hlast := by
    rw [List.getLast?_concat, Option.some_inj] at hlast
    rw [← hlast, hends.stage]
  untouched hnil := absurd hnil (by simp)
  done hlast := by
    rw [List.getLast?_concat, Option.some_inj] at hlast
    obtain ⟨hprogress, hsuccess, -⟩ := hends.completed hlast
    exact ⟨hprogress, hsuccess⟩
  error hfailed := by
    by_cases hlast : ending = .failed
    · exact hends.failed hlast
    · rw [hends.error_eq hlast]
      exact h.error (by simpa [Ne.symm hlast] using hfailed)
  no_error hfailed := by
    obtain ⟨hearlier, hlast⟩ : .failed ∉ endings ∧ .failed ≠ ending := by simpa using hfailed
    rw [hends.error_eq (Ne.symm hlast)]
    exact h.no_error hearlier
  result hcompleted hfailed := by
    obtain ⟨hearlier, hlast⟩ : .failed ∉ endings ∧ .failed ≠ ending := by simpa using hfailed
    cases ending with
    | completed => exact (hends.completed rfl).2.1
    | failed => exact absurd rfl hlast
    | cancelled =>
      obtain ⟨fields, hfields, hsuccess⟩ := h.result (by simpa using hcompleted) hearlier
      exact ⟨fields, (hends.cancelled rfl).1.trans hfields, hsuccess⟩
  no_result hall := by
    have hlast : ending = .cancelled := hall ending (List.mem_append_right _ List.mem_cons_self)
    rw [(hends.cancelled hlast).1]
    exact h.no_result fun earlier hearlier => hall earlier (List.mem_append_left _ hearlier)

/-- The state of a row is that of the last end. -/
theorem Recounts.getLast?_eq (h : row.Recounts endings) (ending : Ending)
    (hstatus : row.status = ending.status) : endings.getLast? = some ending := by
  rw [h.status] at hstatus
  cases hlast : endings.getLast? with
  | none =>
    rw [hlast] at hstatus
    cases ending <;> cases hstatus
  | some last =>
    rw [hlast] at hstatus
    cases last <;> cases ending <;> first | rfl | cases hstatus

/-- The status of a row is that of the last end of a run. -/
theorem Recounts.status_eq (h : row.Recounts endings) (hlast : endings.getLast? = some ending) :
    row.status = ending.status := by
  rw [h.status, hlast]
  rfl

/-- No run has failed if no error is left. -/
theorem Recounts.not_failed (h : row.Recounts endings) (herror : row.error = .null) :
    .failed ∉ endings := by
  intro hfailed
  obtain ⟨message, hmessage⟩ := h.error hfailed
  rw [herror] at hmessage
  cases hmessage

/-- A row is consistent exactly if a last run that completed the job comes after none that failed,
and a last run that was cancelled only after others that were. -/
theorem Recounts.isConsistent_iff (h : row.Recounts endings) :
    row.IsConsistent ↔
      (endings.getLast? = some .completed → .failed ∉ endings) ∧
      (endings.getLast? = some .cancelled → ∀ ending ∈ endings, ending = .cancelled) := by
  constructor
  · intro hrow
    refine ⟨fun hlast => ?_, fun hlast => ?_⟩
    · obtain ⟨-, -, herror, -⟩ := hrow.completed (h.status_eq hlast)
      exact h.not_failed herror
    · obtain ⟨-, hresult, herror⟩ := hrow.cancelled (h.status_eq hlast)
      have hfailed := h.not_failed herror
      -- No run has failed, so the result of one that completed the job would still be there.
      have hcompleted : .completed ∉ endings := by
        intro hcompleted
        obtain ⟨fields, hfields, -⟩ := h.result hcompleted hfailed
        rw [hresult] at hfields
        cases hfields
      intro ending hending
      cases ending with
      | completed => exact absurd hending hcompleted
      | failed => exact absurd hending hfailed
      | cancelled => rfl
  · rintro ⟨hcompleted, hcancelled⟩
    refine ⟨fun hstatus => ?_, fun hstatus => ?_, fun hstatus => ?_, fun hstatus => ?_⟩
    · have hnil : endings = [] := by
        rw [← List.getLast?_eq_none_iff]
        cases hlast : endings.getLast? with
        | none => rfl
        | some last =>
          rw [h.status_eq hlast] at hstatus
          cases last <;> cases hstatus
      exact ⟨h.untouched hnil, h.no_result (by simp [hnil]), h.no_error (by simp [hnil])⟩
    · have hlast := h.getLast?_eq .completed hstatus
      obtain ⟨hprogress, hsuccess⟩ := h.done hlast
      exact ⟨h.stage _ hlast, hprogress, h.no_error (hcompleted hlast), hsuccess⟩
    · have hlast := h.getLast?_eq .failed hstatus
      obtain ⟨message, hmessage⟩ := h.error (List.mem_of_getLast? hlast)
      exact ⟨h.stage _ hlast, by simp [hmessage]⟩
    · have hlast := h.getLast?_eq .cancelled hstatus
      have hall := hcancelled hlast
      refine ⟨h.stage _ hlast, h.no_result hall, h.no_error fun hfailed => ?_⟩
      cases hall _ hfailed

end Job

end Restack.Jobs
