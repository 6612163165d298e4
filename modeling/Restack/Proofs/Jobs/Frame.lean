import Restack.Proofs.Jobs.Making
import Restack.Proofs.Jobs.Protocol
import Restack.Proofs.Jobs.Steady

/-!
# What a run leaves alone

A run writes the row of its job and the row of one project: the one that is kept under the name
that the row of its project tells. This is the row of its project itself, unless somebody has
overwritten the name. A run does not touch other rows, and not all of these two. What was converted
before is only replaced by a run that completes its job.
-/

namespace Restack.Jobs

/-- What a project is and what it was made of. Work on its jobs never changes it. -/
def Project.origin (row : Project) : Value × Value × Value × Value × List (String × Value) :=
  (row.id, row.name, row.files, row.createdAt, row.more)

/-- What a project has been converted to. -/
def Project.output (row : Project) : Value × Value :=
  (row.convertedFiles, row.targetStack)

/-- The row of a project was made with the tables, and still tells the files that it was made of and
what was found in them then. -/
def Project.IsAsMade (tables : Analysis.Tables) (row : Project) : Prop :=
  ∃ store title files made after, Store.createProject tables title files store = .ok (made, after) ∧
    row.files = made.files ∧ row.sourceStack = made.sourceStack

/-- The files of a project that is as it was made are found to be made of what its row tells. -/
theorem Project.IsAsMade.found {tables : Analysis.Tables} {row : Project} {files : List Value}
    {report : Analysis.Report} (h : row.IsAsMade tables) (hfiles : row.files.elements = .ok files)
    (hreport : Analysis.analyze tables files = .ok report) :
    report.toValue = row.sourceStack := by
  obtain ⟨store, title, given, made, after, hcreate, hrow, hstack⟩ := h
  have hmade := Store.projectMade hcreate
  rw [hrow, hmade.files] at hfiles
  obtain rfl : given = files := Except.ok.inj hfiles
  rw [hstack, hmade.found report hreport]

namespace Session

/-- From the session `before` to the session `after`, rows have changed as in a run of the job
`name` that writes the project that `project` names: no other row has changed, and of these two
nothing that they were made with. -/
structure Frame (name : String) (project : Value) (before after : Session) : Prop where
  jobs : ∀ other, other ≠ name → after.store.job? other = before.store.job? other
  order : (after.store.job? name).map Job.order = (before.store.job? name).map Job.order
  projects : ∀ other, project ≠ .str other →
    after.store.project? other = before.store.project? other
  origin : ∀ key, (after.store.project? key).map Project.origin =
    (before.store.project? key).map Project.origin

namespace Frame

variable {name : String} {project : Value} {before middle after : Session}

/-- Where the store is the same, the frame is kept. -/
theorem of_store (h : after.store = before.store) : Frame name project before after :=
  ⟨fun _ _ => by rw [h], by rw [h], fun _ _ => by rw [h], fun _ => by rw [h]⟩

/-- Two stretches of a run that keep the frame keep it together. -/
theorem trans (hfirst : Frame name project before middle)
    (hsecond : Frame name project middle after) : Frame name project before after where
  jobs other hother := (hsecond.jobs other hother).trans (hfirst.jobs other hother)
  order := hsecond.order.trans hfirst.order
  projects other hother := (hsecond.projects other hother).trans (hfirst.projects other hother)
  origin key := (hsecond.origin key).trans (hfirst.origin key)

/-- A change of the job that leaves its order keeps the frame. -/
theorem updateJob (h : Frame name project before after) {change : Job → Job}
    (horder : ∀ row, (change row).order = row.order) :
    Frame name project before (after.updateJob name change) :=
  h.trans
    { jobs := fun _ hother => Store.job?_updateJob.trans (if_neg hother)
      order := order_updateJob horder name name
      projects := fun _ _ => project?_updateJob
      origin := fun _ => by rw [project?_updateJob] }

/-- A change of the project that leaves its origin keeps the frame. -/
theorem updateProject (h : Frame name project before after) {change : Project → Project}
    (horigin : ∀ row, (change row).origin = row.origin) :
    Frame name project before (after.updateProject project change) :=
  h.trans
    { jobs := fun _ _ => job?_updateProject
      order := by rw [job?_updateProject]
      projects := fun other hother => by
        unfold Session.updateProject
        split
        · refine Store.project?_updateProject.trans (if_neg ?_)
          rintro rfl
          exact hother rfl
        · rfl
      origin := map_updateProject (fun row _ => horigin row) project }

/-- No step of a run leaves the frame. -/
theorem steady (before : Session) (name : String) (project : Value) :
    Steady name project (before.Frame name project) where
  ofStore _ _ hstore h := h.trans (of_store hstore)
  now _ h := h.trans ⟨fun _ _ => rfl, rfl, fun _ _ => rfl, fun _ => rfl⟩
  job _ _ horder h := h.updateJob horder
  standing _ change hchange h := h.updateProject fun row => by
    obtain ⟨_, _, hrow⟩ := hchange row
    rw [hrow]
    rfl

end Frame

variable {session : Session} {name key : String} {job row : Job} {project : Project}

/-- What is told of a project is steady, if it is not how the project stands. -/
theorem steady_map {α : Type} {kept : Project → α} (told : Option α) (name key : String)
    (project : Value)
    (hkept : ∀ row status progress moment,
      kept { row with status := status, progress := progress, updatedAt := moment } = kept row) :
    Steady name project fun now => (now.store.project? key).map kept = told where
  ofStore _ _ hstore h := (congrArg (fun store => (store.project? key).map kept) hstore).trans h
  now _ h := h
  job _ _ _ h := (congrArg (Option.map kept) project?_updateJob).trans h
  standing session change hchange h := by
    refine (map_updateProject (fun row moment => ?_) project key).trans h
    obtain ⟨status, progress, hrow⟩ := hchange row
    rw [hrow]
    exact hkept row status progress moment

/-- A run stays in its frame. -/
theorem run_frame (service : Service) (hjob : session.store.job? name = some job)
    (haim : job.project = .str key) (hproject : session.store.project? key = some project) :
    session.Frame name project.id (session.run service name).2 :=
  (Frame.steady session name project.id).run (.of_store rfl)
    (Run.rows_of_found hjob haim hproject) (fun _ _ _ _ _ h => h.updateProject fun _ => rfl)
    fun _ _ _ h => h.updateProject fun _ => rfl

/-- A run finds out again what a project is made of that is as it was made. -/
theorem run_keeps_stack {service : Service} (hjob : session.store.job? name = some job)
    (haim : job.project = .str key) (hproject : session.store.project? key = some project)
    (hid : project.id = .str key) (hmade : project.IsAsMade service.tables) :
    ((session.run service name).2.store.project? key).map (·.sourceStack) =
      some project.sourceStack := by
  refine (steady_map (some project.sourceStack) name key project.id fun _ _ _ _ => rfl).run
    (by rw [hproject, Option.map_some]) (Run.rows_of_found hjob haim hproject) ?_ ?_
  · -- The analysis overwrites the row with what it tells already.
    intro before files report hfiles hreport h
    obtain ⟨row, hrow, -⟩ := Option.map_eq_some_iff.mp h
    rw [hmade.found hfiles hreport, hid]
    change ((before.store.updateProject key _).2.project? key).map _ = _
    rw [Store.project?_updateProject, if_pos rfl, hrow]
    rfl
  · intro before files stack h
    exact (map_updateProject (fun _ _ => rfl) project.id key).trans h

/-- A run that does not complete its job leaves behind what was converted before. -/
theorem run_keeps_output {service : Service} (hjob : session.store.job? name = some job)
    (haim : job.project = .str key) (hproject : session.store.project? key = some project)
    (hrow : (session.run service name).2.store.job? name = some row)
    (hstatus : row.status ≠ .completed) (other : String) :
    ((session.run service name).2.store.project? other).map Project.output =
      (session.store.project? other).map Project.output := by
  refine (steady_map _ name other project.id fun _ _ _ _ => rfl).run_of_unsuccessful rfl
    (Run.rows_of_found hjob haim hproject) ?_ hrow hstatus
  intro before files report _ _ h
  exact (map_updateProject (fun _ _ => rfl) project.id other).trans h

end Session

/-- A run of a job whose row or project is missing does nothing. Any other run touches no other job,
and no project but the one that is kept under the name that its project tells. Of these two rows it
keeps what they were made with; it keeps what the project was found to be made of, if the project is
kept under its own name as it was made; and it keeps what was converted before, if it fails or is
cancelled. -/
theorem run_touches_own_rows (service : Service) (session : Session) (name : String) :
    (session.store.job? name = none →
      session.run service name = (.error (.unknownJob name), session)) ∧
    ∀ job, session.store.job? name = some job →
      (∀ fault, job.project.asKey = .error fault →
        session.run service name = (.error (.fault fault), session)) ∧
      (∀ key, job.project.asKey = .ok key → key.bind session.store.project? = none →
        session.run service name = (.error (.unknownProject job.project), session)) ∧
      ∀ key project, job.project = .str key → session.store.project? key = some project →
        session.Frame name project.id (session.run service name).2 ∧
        (project.id = .str key → project.IsAsMade service.tables →
          ((session.run service name).2.store.project? key).map (·.sourceStack) =
            some project.sourceStack) ∧
        ∀ row, (session.run service name).2.store.job? name = some row →
          row.status = .failed ∨ row.status = .cancelled → ∀ other,
            ((session.run service name).2.store.project? other).map Project.output =
              (session.store.project? other).map Project.output := by
  have hrows := Run.rows_run session name
  refine ⟨fun hnone => ?_, fun job hjob => ⟨fun fault haim => ?_, fun key haim hnone => ?_,
    fun key project haim hproject => ⟨Session.run_frame service hjob haim hproject,
      Session.run_keeps_stack hjob haim hproject, fun row hrow hstatus =>
      Session.run_keeps_output hjob haim hproject hrow ?_⟩⟩⟩
  · simp only [hnone] at hrows
    exact Run.job_of_unfound hrows
  · simp only [hjob, haim] at hrows
    exact Run.job_of_unfound hrows
  · simp only [hjob, haim, hnone] at hrows
    exact Run.job_of_unfound hrows
  · rcases hstatus with hstatus | hstatus <;> simp [hstatus]

/-- A project without files is converted, and a second run of its job is cancelled. -/
theorem run_touches_own_rows_cancelled :
    ∃ project made job begun before after,
      (Store.empty ⟨fun n => "row " ++ toString n, fun n => "tick " ++ toString n⟩ []).createProject
        .standard (.str "Shop") [] = .ok (project, made) ∧
      made.createJob "row 0" (.str "react") (.str "flutter") (.str "frontend") standardOptions =
        some (job, begun) ∧
      ((Session.ofStore begun).run .sample "row 1").2.subscribe (.fickle "row 1") = before ∧
      (before.run .sample "row 1").2 = after ∧
      (after.store.job? "row 1").map (·.status) = some .cancelled ∧
      before.Frame "row 1" (.str "row 0") after ∧
      (after.store.project? "row 0").map (·.sourceStack) = some project.sourceStack ∧
      (after.store.project? "row 0").map Project.output =
        (before.store.project? "row 0").map Project.output := by
  obtain ⟨project, made, job, begun, before, hproject, hjob, hbefore, found, kept, hfound, haim,
      hkept, hid, hfiles, hstack, row, hrow, hstatus⟩ :
    ∃ project made job begun before,
      (Store.empty ⟨fun n => "row " ++ toString n, fun n => "tick " ++ toString n⟩ []).createProject
        .standard (.str "Shop") [] = .ok (project, made) ∧
      made.createJob "row 0" (.str "react") (.str "flutter") (.str "frontend") standardOptions =
        some (job, begun) ∧
      ((Session.ofStore begun).run .sample "row 1").2.subscribe (.fickle "row 1") = before ∧
      ∃ found kept, before.store.job? "row 1" = some found ∧ found.project = .str "row 0" ∧
        before.store.project? "row 0" = some kept ∧ kept.id = .str "row 0" ∧
        kept.files = project.files ∧ kept.sourceStack = project.sourceStack ∧
        ∃ row, (before.run .sample "row 1").2.store.job? "row 1" = some row ∧
          row.status = .cancelled :=
    ⟨_, _, _, _, _, rfl, rfl, rfl, _, _, rfl, rfl, rfl, rfl, rfl, rfl, _, rfl, rfl⟩
  have hrun := (run_touches_own_rows .sample before "row 1").2
  obtain ⟨hframe, hkeeps, houtput⟩ := (hrun found hfound).2.2 "row 0" kept haim hkept
  rw [hid] at hframe
  refine ⟨project, made, job, begun, before, _, hproject, hjob, hbefore, rfl, ?_, hframe, ?_,
    houtput row hrow (.inr hstatus) "row 0"⟩
  · rw [hrow, Option.map_some, hstatus]
  · rw [← hstack]
    exact hkeeps hid ⟨_, _, _, _, _, hproject, hfiles, hstack⟩

/-- The name of a project is overwritten with the name of another one. A run for the first project
writes the row of the other one, and changes what it is said to be made of. -/
theorem renamed_project_writes_other :
    ∃ shop first cart second job begun,
      (Store.empty ⟨fun n => "row " ++ toString n, fun n => "tick " ++ toString n⟩ []).createProject
        .standard (.str "Shop") [] = .ok (shop, first) ∧
      first.createProject .standard (.str "Cart")
        [.object [("path", .str "cart.css"), ("content", .str "")]] = .ok (cart, second) ∧
      (second.updateProject "row 0" (·.set ("id", .str "row 1"))).2.createJob "row 0" (.str "react")
        (.str "flutter") (.str "frontend") standardOptions = some (job, begun) ∧
      begun.project? "row 1" = some cart ∧
      ∃ row, ((Session.ofStore begun).run .sample "row 2").2.store.project? "row 1" = some row ∧
        row.status ≠ cart.status ∧ row.convertedFiles ≠ cart.convertedFiles ∧
        row.sourceStack ≠ cart.sourceStack := by
  refine ⟨_, _, _, _, _, _, rfl, rfl, rfl, rfl, _, rfl, nofun, nofun, fun hstack => ?_⟩
  have htotal : Except.ok (some (Value.int 0)) = Except.ok (some (Value.int 1)) :=
    congrArg (Value.get? "totalFiles") hstack
  cases htotal

end Restack.Jobs
