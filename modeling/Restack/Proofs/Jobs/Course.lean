import Restack.Proofs.Jobs.Endings

/-!
# The course of a run

The milestones of a run tell which stages it entered, when requests to cancel its job were granted,
and how it ended. `Underway` is what holds between two stages of a run, and `Course` what holds of a
run as a whole, whatever the listeners do.
-/

namespace Restack.Jobs

/-- The event that was published at a milestone, if it is such a milestone. -/
def Milestone.event? : Milestone → Option Event
  | .published event => some event
  | .granted _ => none

/-- The events that were published, in their order. -/
def eventsIn (milestones : List Milestone) : List Event := milestones.filterMap Milestone.event?

/-- What listeners are told when a job enters a stage. -/
def Event.atStage (job : Value) (stage : Stage × Nat) : Event :=
  ⟨job, stage.1, .ofNat stage.2, .processing⟩

/-- What is done of a job after some stages: what was done before, if there are none. -/
def Stage.reached (start : Value) (stages : List (Stage × Nat)) : Value :=
  (stages.getLast?.map fun stage => Value.ofNat stage.2).getD start

/-- Events are told in the order of the milestones. -/
@[simp] theorem eventsIn_append (first second : List Milestone) :
    eventsIn (first ++ second) = eventsIn first ++ eventsIn second :=
  List.filterMap_append

/-- A published event is told before those after it. -/
@[simp] theorem eventsIn_published_cons (event : Event) (rest : List Milestone) :
    eventsIn (.published event :: rest) = event :: eventsIn rest := rfl

/-- Requests that are granted are no events. -/
@[simp] theorem eventsIn_granted (jobs : List String) : eventsIn (jobs.map .granted) = [] := by
  simp [eventsIn, List.filterMap_map, Function.comp_def, Milestone.event?]

/-- After a further stage what is done is what this stage says. -/
@[simp] theorem Stage.reached_append (start : Value) (stages : List (Stage × Nat))
    (stage : Stage × Nat) : Stage.reached start (stages ++ [stage]) = .ofNat stage.2 := by
  simp [Stage.reached]

/-- A granted request stands before or after a published event. Nothing was published after it in
the second case. -/
theorem granted_publish_cases {since early late : List Milestone} {event : Event} {name : String}
    {granted : List String}
    (h : since ++ .published event :: granted.map .granted = early ++ .granted name :: late) :
    (∃ rest, since = early ++ .granted name :: rest ∧
        late = rest ++ .published event :: granted.map .granted) ∨
      name ∈ granted ∧ eventsIn late = [] := by
  rcases List.append_eq_append_iff.mp h with ⟨rest, -, htail⟩ | ⟨rest, hsince, htail⟩
  · cases rest with
    | nil => cases htail
    | cons first rest =>
      have hgranted : granted.map Milestone.granted = rest ++ .granted name :: late :=
        (List.cons.inj htail).2
      have hmem : Milestone.granted name ∈ granted.map Milestone.granted := by
        rw [hgranted]
        exact List.mem_append_right _ List.mem_cons_self
      have hnone : eventsIn (rest ++ .granted name :: late) = [] := by
        rw [← hgranted, eventsIn_granted]
      rw [← List.singleton_append, eventsIn_append, eventsIn_append] at hnone
      refine .inr ⟨by simpa using hmem, ?_⟩
      exact (List.append_eq_nil_iff.mp (List.append_eq_nil_iff.mp hnone).2).2
  · cases rest with
    | nil => cases htail
    | cons first rest =>
      obtain ⟨rfl, hlate⟩ := List.cons.inj htail
      exact .inl ⟨rest, hsince, hlate⟩

/-- A run of a job that began in the session `start` has entered the stages `done`, has passed the
milestones `since`, and stands between two stages in the session `now`. -/
structure Underway (start : Session) (name key : String) (job : Job) (done : List (Stage × Nat))
    (since : List Milestone) (now : Session) : Prop where
  rows : ∃ row project, now.Keeps name key row project ∧ row.id = job.id ∧
    row.progress = Stage.reached job.progress done
  milestones : now.milestones = start.milestones ++ since
  events : eventsIn since = done.map (Event.atStage job.id)
  cancelling : name ∈ now.cancelling ↔ name ∈ start.cancelling ∨ .granted name ∈ since
  /-- No stage was entered under a request from before the run. -/
  fresh : done ≠ [] → name ∉ start.cancelling
  /-- No stage was entered after a request was granted. -/
  prompt : ∀ early late, since = early ++ .granted name :: late → eventsIn late = []

namespace Underway

variable {start now : Session} {name key : String} {job : Job} {project : Project}
  {done : List (Stage × Nat)} {since : List Milestone}

/-- A run begins before its first stage. -/
theorem of_keeps (hkeeps : start.Keeps name key job project) :
    Underway start name key job [] [] start where
  rows := ⟨job, project, hkeeps, rfl, rfl⟩
  milestones := by simp
  events := rfl
  cancelling := by simp
  fresh h := absurd rfl h
  prompt early late h := by simp at h

/-- What the project was found to be made of is all the same to a run. -/
theorem updateStack (h : Underway start name key job done since now) (stack : Value) :
    Underway start name key job done since
      (now.updateProject (.str key) fun row => { row with sourceStack := stack }) where
  rows := by
    obtain ⟨row, project, hkeeps, hrow⟩ := h.rows
    obtain ⟨_, hkeeps'⟩ := hkeeps.updateProject (fun row => { row with sourceStack := stack }) rfl
    exact ⟨row, _, hkeeps', hrow⟩
  milestones := by rw [Session.milestones_updateProject, h.milestones]
  events := h.events
  cancelling := by rw [Session.cancelling_updateProject, h.cancelling]
  fresh := h.fresh
  prompt := h.prompt

/-- Whatever listeners do when they are told that a stage is entered, the run stands between this
stage and the next one afterwards. -/
theorem publish (h : Underway start name key job done since now) (hmem : name ∉ now.cancelling)
    {stage : Stage × Nat} {entered : Session} {row : Job}
    (hkeeps : entered.Keeps name key row project)
    (hevent : Event.ofJob row = Event.atStage job.id stage)
    (hmilestones : entered.milestones = now.milestones)
    (hcancelling : entered.cancelling = now.cancelling) :
    ∃ since, Underway start name key job (done ++ [stage]) since (entered.publish row).2 := by
  obtain ⟨hstart, hsince⟩ := not_or.mp (mt h.cancelling.mpr hmem)
  obtain ⟨granted, hheard⟩ := Session.publish_heard row entered
  refine ⟨since ++ .published (Event.atStage job.id stage) :: granted.map .granted,
    ⟨row, project, hkeeps.of_store hheard.store, congrArg Event.job hevent, ?_⟩, ?_, ?_, ?_,
    fun _ => hstart, ?_⟩
  · rw [Stage.reached_append]
    exact congrArg Event.progress hevent
  · rw [hheard.milestones, Session.pass, hmilestones, h.milestones, hevent, List.append_assoc,
      List.append_assoc, List.singleton_append]
  · simp [h.events]
  · rw [hheard.cancelling]
    simp [Session.pass, hcancelling, hmem, hstart, hsince]
  · intro early late hsplit
    rcases granted_publish_cases hsplit with ⟨rest, hearly, -⟩ | ⟨-, hnone⟩
    · exact absurd (hearly ▸ List.mem_append_right _ List.mem_cons_self) hsince
    · exact hnone

/-- At the entrance to a stage, a request that stands cancels the run; else the stage is entered,
and it has been entered also if a listener breaks off. -/
theorem enter (h : Underway start name key job done since now) (stage : Stage × Nat) :
    Leads (Work.enter name (.str key) stage) now
      (fun _ after => ∃ since, Underway start name key job (done ++ [stage]) since after)
      (fun cause after => (cause = .cancelled ∧ name ∈ now.cancelling ∧ after = now) ∨
        (cause ≠ .cancelled ∧
          ∃ since, Underway start name key job (done ++ [stage]) since after)) := by
  refine Work.enter_leads (fun hmem => .inl ⟨rfl, hmem, rfl⟩) fun hmem entered hrecorded => ?_
  obtain ⟨row, project, hkeeps, hid, -⟩ := h.rows
  obtain ⟨_, _, hkeeps'⟩ := hrecorded.keeps hkeeps rfl rfl
  have hpublished := h.publish hmem hkeeps' (by rw [← hid]; rfl) hrecorded.milestones
    hrecorded.cancelling
  exact Work.publish_leads hkeeps'.found (fun _ => hpublished)
    fun _ _ => .inr ⟨by simp, hpublished⟩

/-- The stages of a run are either all entered, or the run is interrupted after some of them: by a
request before the last of them, or else after the first. -/
theorem stages {service : Service} (hkeeps : start.Keeps name key job project) :
    Leads (Work.stages service name job project) start
      (fun _ after => ∃ since, Underway start name key job Stage.table since after)
      (fun cause after => ∃ done since, Underway start name key job done since after ∧
        done <+: Stage.table ∧ (cause = .cancelled → name ∈ after.cancelling ∧ done ≠ Stage.table) ∧
        (cause ≠ .cancelled → done ≠ [])) := by
  refine Work.stages_leads
    (fun done now => done <+: Stage.table ∧ ∃ since, Underway start name key job done since now)
    ⟨List.nil_prefix, [], of_keeps hkeeps⟩ ?_ ?_ ?_ ?_
  · rintro done stage before hinitial ⟨hdone, since, h⟩
    rw [hkeeps.named]
    refine (h.enter stage).imp (fun _ _ hafter => ⟨hinitial, hafter⟩) ?_
    rintro cause after (⟨rfl, hmem, rfl⟩ | ⟨hcause, since, hafter⟩)
    · refine ⟨done, since, h, hdone, fun _ => ⟨hmem, ?_⟩, fun hne => absurd rfl hne⟩
      -- One more stage begins the table, so `done` is not the whole of it.
      rintro rfl
      have hlength := hinitial.length_le
      rw [List.length_append, List.length_singleton] at hlength
      omega
    · exact ⟨done ++ [stage], since, hafter, hinitial, fun heq => absurd heq hcause,
        fun _ => by simp⟩
  · rintro done before _ analysis - - ⟨hdone, since, h⟩
    rw [hkeeps.named]
    exact .revise_str ⟨hdone, since, h.updateStack analysis.toValue⟩
  · rintro done before fault hne ⟨hdone, since, h⟩ _
    exact ⟨done, since, h, hdone, by simp, fun _ => hne⟩
  · rintro result after _ ⟨-, h⟩
    exact h

end Underway

/-- A run of a job from the session `start` to the session `after` has entered the stages `stages`,
has passed the milestones `since`, and has come to its end. -/
structure Course (start : Session) (name key : String) (job : Job) (ending : Ending)
    (stages : List (Stage × Nat)) (since : List Milestone) (after : Session) : Prop where
  rows : ∃ row project, after.Keeps name key row project ∧ row.status = ending.status ∧
    project.status = ending.standing
  isPrefix : stages <+: Stage.table
  complete : ending = .completed → stages = Stage.table
  begun : ending ≠ .cancelled → stages ≠ []
  milestones : after.milestones = start.milestones ++ since
  events : eventsIn since = stages.map (Event.atStage job.id) ++
    [ending.event job.id (Stage.reached job.progress stages)]
  /-- A run is only cancelled on request, and before its last stage. -/
  cancelled : ending = .cancelled →
    (name ∈ start.cancelling ∨ .granted name ∈ since) ∧ stages ≠ Stage.table
  /-- No stage was entered under a request from before the run. -/
  fresh : stages ≠ [] → name ∉ start.cancelling
  /-- After a request was granted, nothing but the end was published. -/
  prompt : ∀ early late, since = early ++ .granted name :: late →
    eventsIn late = [ending.event job.id (Stage.reached job.progress stages)]
  /-- A request is forgotten exactly if the run ends as cancelled. -/
  leftover : name ∈ after.cancelling ↔
    (name ∈ start.cancelling ∨ .granted name ∈ since) ∧ ending ≠ .cancelled

namespace Course

variable {start now after : Session} {name key : String} {job row : Job} {project : Project}
  {done : List (Stage × Nat)} {since : List Milestone} {ending : Ending}

/-- A run that is closed after some stages has run its course. -/
theorem of_closed (h : Underway start name key job done since now)
    (hinitial : done <+: Stage.table) (hid : row.id = job.id)
    (hprogress : row.progress = Stage.reached job.progress done)
    (hcomplete : ending = .completed → done = Stage.table)
    (hbegun : ending ≠ .cancelled → done ≠ [])
    (hcancelled : ending = .cancelled → name ∈ now.cancelling ∧ done ≠ Stage.table)
    (hclosed : now.Closed ending name key row after) :
    ∃ since, Course start name key job ending done since after := by
  -- The rows are settled before the listeners are told, so they are granted nothing for this job.
  obtain ⟨granted, hrefused, hmilestones⟩ := hclosed.milestones
  rw [hid, hprogress] at hmilestones
  have hrequested : ∀ event : Event,
      .granted name ∈ since ++ .published event :: granted.map .granted ↔
        .granted name ∈ since := by
    simp [hrefused]
  refine ⟨since ++ .published (ending.event job.id (Stage.reached job.progress done)) ::
      granted.map .granted, hclosed.rows, hinitial, hcomplete, hbegun, ?_, ?_, ?_,
    h.fresh, ?_, ?_⟩
  · rw [hmilestones, h.milestones, List.append_assoc]
  · simp [h.events]
  · intro heq
    rw [hrequested, ← h.cancelling]
    exact hcancelled heq
  · intro early late hsplit
    rcases granted_publish_cases hsplit with ⟨rest, hearly, rfl⟩ | ⟨hmem, -⟩
    · simp [h.prompt early rest hearly]
    · exact absurd hmem hrefused
  · rw [hclosed.cancelling, h.cancelling, hrequested]

/-- A way to end a run, taken after some stages, has it run its course. -/
theorem of_closes {closer : Run Job} (h : Underway start name key job done since now)
    (hinitial : done <+: Stage.table) (hcomplete : ending = .completed → done = Stage.table)
    (hbegun : ending ≠ .cancelled → done ≠ [])
    (hcancelled : ending = .cancelled → name ∈ now.cancelling ∧ done ≠ Stage.table)
    (hcloser : ∀ {row project}, now.Keeps name key row project →
      Leads closer now (fun _ after => now.Closed ending name key row after)
        (fun _ after => now.Closed ending name key row after)) :
    Leads closer now
      (fun _ after => ∃ ending stages since, Course start name key job ending stages since after)
      fun _ after =>
        ∃ ending stages since, Course start name key job ending stages since after := by
  obtain ⟨row, project, hkeeps, hid, hprogress⟩ := h.rows
  have hcourse : ∀ after, now.Closed ending name key row after →
      ∃ ending stages since, Course start name key job ending stages since after :=
    fun _ hclosed => ⟨ending, done,
      of_closed h hinitial hid hprogress hcomplete hbegun hcancelled hclosed⟩
  exact (hcloser hkeeps).imp (fun _ => hcourse) fun _ => hcourse

end Course

/-- Every run of a job whose project is kept runs its course, whether it has a result or not. -/
theorem Session.run_course (service : Service) {session : Session} {name key : String} {job : Job}
    {project : Project} (hkeeps : session.Keeps name key job project) :
    ∃ ending stages since,
      Course session name key job ending stages since (session.run service name).2 := by
  have hcourse : Leads (Run.job service name) session
      (fun _ after => ∃ ending stages since, Course session name key job ending stages since after)
      (fun _ after =>
        ∃ ending stages since, Course session name key job ending stages since after) := by
    have htable : Stage.table ≠ [] := List.cons_ne_nil _ _
    refine Run.job_leads hkeeps (Underway.stages hkeeps) ?_ ?_ ?_ ?_
    · rintro result now ⟨since, h⟩ _
      exact Course.of_closes h (List.prefix_refl _) (fun _ => rfl) (fun _ => htable) (by simp)
        Run.complete_closed
    · rintro result now message ⟨since, h⟩ _
      exact Course.of_closes h (List.prefix_refl _) (by simp) (fun _ => htable) (by simp)
        Run.fail_closed
    · rintro now ⟨done, since, h, hinitial, hcancelled, -⟩
      exact Course.of_closes h hinitial (by simp) (by simp) (fun _ => hcancelled rfl)
        Run.cancelled_closed
    · rintro message now ⟨done, since, h, hinitial, -, hbegun⟩
      exact Course.of_closes h hinitial (by simp) (fun _ => hbegun (by simp)) (by simp)
        Run.fail_closed
  exact hcourse.always

end Restack.Jobs
