import Restack.Proofs.Analysis.Reports
import Restack.Proofs.Conversion.Options
import Restack.Proofs.Conversion.Totality
import Restack.Proofs.Jobs.Endings
import Restack.Proofs.Jobs.Making
import Restack.Script.Reader

/-!
# Jobs and conversions

A job goes through the stages of a conversion one by one, with listeners and rows in between. Where
nobody interferes, it comes to the result that the conversion as a whole has.
-/

namespace Restack.Jobs

open Restack.Conversion

/-- Two rows of jobs ask for the same work: between the same frameworks, with the same options. -/
structure Job.SameWork (a b : Job) : Prop where
  source : a.source = b.source
  target : a.target = b.target
  options : a.options = b.options

namespace Store

variable {store made : Store}

/-- A project that is made holds its files, and all of them are source files. It is kept under its
own name. -/
theorem createProject_eq {tables : Analysis.Tables} {title : Value} {files : List Value}
    {project : Project} (h : store.createProject tables title files = .ok (project, made)) :
    (∀ file ∈ files, file.IsSourceFile) ∧ project.files = .list files ∧
      ∃ key, project.id = .str key ∧ made.project? key = some project := by
  have hmade := projectMade h
  refine ⟨Analysis.analyze_isOk_iff.mp hmade.analyzed, hmade.files, _, hmade.id, ?_⟩
  exact (hmade.projects _).trans (if_pos rfl)

/-- A job that is made is for its project, from one framework to another, with its options. It is
kept under its own name, and projects are kept as before. -/
theorem createJob_eq {key : String} {source target layer options : Value} {job : Job}
    (h : store.createJob key source target layer options = some (job, made)) :
    job.source = source ∧ job.target = target ∧ job.options = options ∧ job.project = .str key ∧
      (∃ name, job.id = .str name ∧ made.job? name = some job) ∧
      ∀ other, made.project? other = store.project? other := by
  have hmade := jobMade h
  refine ⟨hmade.source, hmade.target, hmade.options, hmade.project, ⟨_, hmade.id, ?_⟩,
    hmade.projects⟩
  exact (hmade.jobs _).trans (if_pos rfl)

/-- A job that is made for a project that was just made is kept with its project. -/
theorem keeps_of_create {tables : Analysis.Tables} {title source target layer options : Value}
    {files : List Value} {kept : Store} {project : Project} {job : Job} {name key : String}
    {session : Session} (hproject : store.createProject tables title files = .ok (project, kept))
    (hkey : project.id = .str key)
    (hjob : kept.createJob key source target layer options = some (job, made))
    (hname : job.id = .str name) (hsession : session.store = made) :
    session.Keeps name key job project := by
  obtain ⟨-, -, key', hkey', hkept⟩ := createProject_eq hproject
  obtain ⟨-, -, -, haim, ⟨name', hname', hfound⟩, hprojects⟩ := createJob_eq hjob
  obtain rfl : key' = key := by
    rw [hkey] at hkey'
    exact (Value.str.inj hkey').symm
  obtain rfl : name' = name := by
    rw [hname] at hname'
    exact (Value.str.inj hname').symm
  refine ⟨?_, haim, ?_, hkey⟩
  · rw [hsession]
    exact hfound
  · rw [hsession, hprojects]
    exact hkept

end Store

/-- A session in which the rows of a job are kept, listeners only observe, and nobody asked for the
job to be cancelled. -/
structure Session.Quiet (name key : String) (session : Session) : Prop where
  rows : ∃ row project, session.Keeps name key row project
  isObserved : session.IsObserved
  free : name ∉ session.cancelling

namespace Session.Quiet

variable {name key : String} {before after : Session}

/-- A session stays quiet when its rows are changed. -/
theorem recorded {job : Job → Job} {change : Project → Project} (h : before.Quiet name key)
    (hrecorded : before.Recorded name key job change after)
    (hproject : ∀ row, (job row).project = row.project) (hid : ∀ row, (change row).id = row.id) :
    after.Quiet name key where
  rows := by
    obtain ⟨row, project, hkeeps⟩ := h.rows
    obtain ⟨_, _, hkeeps'⟩ := hrecorded.keeps hkeeps (hproject row) (hid project)
    exact ⟨_, _, hkeeps'⟩
  isObserved := by
    unfold IsObserved
    rw [hrecorded.listeners]
    exact h.isObserved
  free := by
    rw [hrecorded.cancelling]
    exact h.free

/-- A session stays quiet when its listeners are told of something. -/
theorem observed (h : before.Quiet name key) (hobserved : before.Observed after) :
    after.Quiet name key where
  rows := by
    obtain ⟨row, project, hkeeps⟩ := h.rows
    exact ⟨row, project, hkeeps.of_store hobserved.store⟩
  isObserved := hobserved.isObserved
  free := by
    rw [hobserved.cancelling]
    exact h.free

/-- A session stays quiet when it is found out what the project is made of. -/
theorem updateStack (h : before.Quiet name key) (stack : Value) :
    (before.updateProject (.str key) fun row => { row with sourceStack := stack }).Quiet
      name key where
  rows := by
    obtain ⟨row, project, hkeeps⟩ := h.rows
    obtain ⟨_, hkeeps'⟩ := hkeeps.updateProject (fun row => { row with sourceStack := stack }) rfl
    exact ⟨row, _, hkeeps'⟩
  isObserved := by
    unfold IsObserved
    rw [listeners_updateProject]
    exact h.isObserved
  free := by
    rw [cancelling_updateProject]
    exact h.free

/-- Each stage is entered in a quiet session. -/
theorem enter (h : before.Quiet name key) (stage : Stage × Nat) :
    Leads (Work.enter name (.str key) stage) before (fun _ after => after.Quiet name key)
      fun _ _ => False := by
  refine Work.enter_leads (fun hmem => h.free hmem) fun _ entered hrecorded => ?_
  have hentered := h.recorded hrecorded (fun _ => rfl) fun _ => rfl
  obtain ⟨row, project, hkeeps⟩ := hentered.rows
  obtain ⟨hnone, hobserved⟩ := publish_observed row hentered.isObserved
  refine Work.publish_leads hkeeps.found (fun _ => hentered.observed hobserved) fun message h => ?_
  rw [hnone] at h
  cases h

/-- The stages of a quiet session come to the result that is computed. -/
theorem stages {service : Service} {job : Job} {project : Project} {result : Result}
    (h : before.Quiet name key) (hnamed : project.id = .str key)
    (hresult : Work.computed service job project = .ok result) :
    Leads (Work.stages service name job project) before
      (fun found after => found = result ∧ after.Quiet name key) fun _ _ => False := by
  refine Work.stages_leads (fun _ now => now.Quiet name key) h ?_ ?_ ?_ ?_
  · intro done stage now _ hquiet
    rw [hnamed]
    exact hquiet.enter stage
  · intro done now _ analysis _ _ hquiet
    rw [hnamed]
    exact .revise_str (hquiet.updateStack analysis.toValue)
  · intro done now fault _ _ hfault
    rw [hresult] at hfault
    cases hfault
  · intro found after hfound hquiet
    rw [hresult] at hfound
    cases hfound
    exact ⟨rfl, hquiet⟩

end Session.Quiet

/-- The rows tell that a run was completed, and with which result. -/
structure Session.Holds (name key : String) (result : Result) (row : Job) (after : Session) :
    Prop where
  found : after.store.job? name = some row
  status : row.status = .completed
  outcome : row.result = result.toValue
  files : ∃ project, after.store.project? key = some project ∧
    project.convertedFiles = .list (result.files.map Target.File.toValue)

/-- A quiet session is told of the result that was written into the rows. -/
theorem Run.complete_quiet {name key : String} {before : Session} {target : Value} {result : Result}
    (h : before.Quiet name key) :
    Leads (complete name (.str key) target result) before (Session.Holds name key result)
      fun _ _ => False := by
  refine complete_leads fun settled moment hrecorded => ?_
  obtain ⟨row, project, hkeeps⟩ := h.rows
  obtain ⟨_, _, hkeeps'⟩ := hrecorded.keeps hkeeps rfl rfl
  have hsettled := h.recorded hrecorded (fun _ => rfl) fun _ => rfl
  obtain ⟨hnone, hobserved⟩ := Session.publish_observed _ hsettled.isObserved
  refine conclude_leads hkeeps'.found (fun _ => ?_) fun message h => ?_
  · exact ⟨hobserved.store ▸ hkeeps'.found, rfl, rfl, _, hobserved.store ▸ hkeeps'.kept, rfl⟩
  · rw [hnone] at h
    cases h

/-- A run of a quiet session is completed with the result that is computed, if it is successful. -/
theorem Run.job_quiet {service : Service} {name key : String} {job : Job} {project : Project}
    {session : Session} {result : Result} (hkeeps : session.Keeps name key job project)
    (hquiet : session.Quiet name key)
    (hresult : Work.computed service job project = .ok result) (hsuccess : result.success = true) :
    Leads (Run.job service name) session (Session.Holds name key result) fun _ _ => False := by
  refine job_leads hkeeps (hquiet.stages hkeeps.named hresult) ?_ ?_ ?_ ?_
  · rintro found after ⟨rfl, hafter⟩ _
    exact complete_quiet hafter
  · rintro found after message ⟨rfl, -⟩ hunsuccessful
    rw [hsuccess] at hunsuccessful
    cases hunsuccessful
  · exact fun _ => False.elim
  · exact fun _ _ => False.elim

/-- What the stages of a job compute is the conversion of the files of its project. -/
theorem Work.computed_eq_convert {tables : Analysis.Tables} {parser : Script.Parser}
    {moment : Time.Moment} {job : Job} {project : Project} {files : List Value}
    {source target : String} (haccepted : ∀ file ∈ files, file.IsSourceFile)
    (hfiles : project.files = .list files)
    (hsource : job.source = .str source) (htarget : job.target = .str target) :
    computed { Service.standard parser moment with tables } job project =
      convert parser files source target job.options moment := by
  obtain ⟨report, hreport⟩ : ∃ report, Analysis.analyze tables files = .ok report :=
    Analysis.analyze_isOk_iff.mpr haccepted
  unfold computed convert
  rw [hfiles, hsource, htarget]
  simp only [Value.elements, Value.textFor, Value.display, bind, Except.bind, hreport]
  rfl

/-- A job that was made for a project of accepted files, whatever its frameworks and options are, is
completed if the listeners only observe and nobody asked for it to be cancelled, and its result is
that of the conversion as a whole with the same parser. The project gets the files of this result.
Where no options are given, the job gets the standard options and the conversion gets none. The rows
may have gone through other work since they were made. -/
theorem run_agrees_with_transpile (tables' : Analysis.Tables) (parser : Script.Parser)
    (moment : Time.Moment) (given : Option (List (String × Value))) {tables : Analysis.Tables}
    {before kept later begun : Store} {title layer : Value} {files : List Value}
    {source target name key : String} {project stored : Project} {job row : Job} {session : Session}
    (hproject : before.createProject tables title files = .ok (project, kept))
    (hjob : later.createJob key (.str source) (.str target) layer
      ((given.map Value.object).getD standardOptions) = some (job, begun))
    (hkeeps : session.Keeps name key row stored) (hrow : row.SameWork job)
    (hfiles : stored.files = project.files) (hobserved : session.IsObserved)
    (hfree : name ∉ session.cancelling) :
    ∃ finished converted after,
      session.run { Service.standard parser moment with tables := tables' } name =
        (.ok finished, after) ∧
      after.store.job? name = some finished ∧ finished.status = .completed ∧
      finished.result = (transpile parser files source target
        ((given.map Value.object).getD (.object [])) moment).toValue ∧
      after.store.project? key = some converted ∧
      converted.convertedFiles =
        .list ((transpile parser files source target
          ((given.map Value.object).getD (.object [])) moment).files.map Target.File.toValue) := by
  obtain ⟨haccepted, hmade, -⟩ := Store.createProject_eq hproject
  obtain ⟨hsource, htarget, hoptions, -⟩ := Store.createJob_eq hjob
  have hagree : OptionsAgree row.options ((given.map Value.object).getD (.object [])) := by
    rw [hrow.options, hoptions]
    cases given with
    | none => exact .standardOptions
    | some fields => exact .refl _
  have hrecord : ((given.map Value.object).getD (.object [])).IsRecord := by
    cases given with
    | none => exact ⟨_, rfl⟩
    | some fields => exact ⟨_, rfl⟩
  obtain ⟨result, hresult, hsuccess⟩ := convert_isOk parser haccepted hrecord source target moment
  have htranspile : transpile parser files source target
      ((given.map Value.object).getD (.object [])) moment = result := by
    unfold transpile
    rw [hresult]
  -- Standard options and none at all are told apart by no step of a conversion.
  have hcomputed : Work.computed { Service.standard parser moment with tables := tables' } row
      stored = .ok result := by
    rw [Work.computed_eq_convert haccepted (hfiles.trans hmade) (hrow.source.trans hsource)
      (hrow.target.trans htarget), hagree.convert, hresult]
  have hquiet : session.Quiet name key := ⟨⟨row, stored, hkeeps⟩, hobserved, hfree⟩
  obtain ⟨finished, after, hrun, hholds⟩ :=
    (Run.job_quiet hkeeps hquiet hcomputed hsuccess).exists_ok
  obtain ⟨converted, hkept, hconverted⟩ := hholds.files
  rw [htranspile]
  exact ⟨finished, converted, after, hrun, hholds.found, hholds.status, hholds.outcome, hkept,
    hconverted⟩

/-- A style sheet in a file. -/
def sheetRecord : Value :=
  .object [("path", .str "shop.css"), ("content", .str ".price { color: red; }")]

/-- A listener that goes when it is told of something. -/
def Listener.shy : Listener where
  name := "clerk"
  react _ _ := [.unsubscribe "clerk"]

/-- A listener that is asked for nothing but to unsubscribe only observes. -/
theorem Listener.shy_observes : Listener.shy.Observes := by
  intro past event reaction hreaction
  obtain rfl := List.mem_singleton.mp hreaction
  exact .unsubscribe "clerk"

/-- A job for a project of one style sheet, made without options and run in front of a listener. -/
theorem run_agrees_with_transpile_sheet :
    ∃ project kept job begun finished after,
      (Store.empty ⟨fun n => "row " ++ toString n, fun n => "tick " ++ toString n⟩ []).createProject
        .standard (.str "Shop") [sheetRecord] = .ok (project, kept) ∧
      kept.createJob "row 0" (.str "react") (.str "flutter") (.str "frontend") standardOptions =
        some (job, begun) ∧
      ({ Session.ofStore begun with listeners := [.shy] } : Session).run
        (.standard Script.parse ⟨2024, 1, 15, 12, 0, 0, 0⟩) "row 1" = (.ok finished, after) ∧
      finished.status = .completed ∧
      finished.result = (transpile Script.parse [sheetRecord] "react" "flutter" (.object [])
        ⟨2024, 1, 15, 12, 0, 0, 0⟩).toValue := by
  obtain ⟨project, kept, job, begun, hproject, hkey, hjob, hname⟩ : ∃ project kept job begun,
      (Store.empty ⟨fun n => "row " ++ toString n, fun n => "tick " ++ toString n⟩ []).createProject
        .standard (.str "Shop") [sheetRecord] = .ok (project, kept) ∧
      project.id = .str "row 0" ∧
      kept.createJob "row 0" (.str "react") (.str "flutter") (.str "frontend") standardOptions =
        some (job, begun) ∧
      job.id = .str "row 1" := ⟨_, _, _, _, rfl, rfl, rfl, rfl⟩
  have hkeeps : ({ Session.ofStore begun with listeners := [.shy] } : Session).Keeps "row 1" "row 0"
      job project := Store.keeps_of_create hproject hkey hjob hname rfl
  have hobserved : ({ Session.ofStore begun with listeners := [.shy] } : Session).IsObserved := by
    intro listener hlistener
    obtain rfl := List.mem_singleton.mp hlistener
    exact Listener.shy_observes
  obtain ⟨finished, -, after, hrun, -, hstatus, hresult, -⟩ :=
    run_agrees_with_transpile .standard Script.parse ⟨2024, 1, 15, 12, 0, 0, 0⟩ none hproject hjob
      hkeeps ⟨rfl, rfl, rfl⟩ rfl hobserved (by simp [Session.ofStore])
  exact ⟨project, kept, job, begun, finished, after, hproject, hjob, hrun, hstatus, hresult⟩

end Restack.Jobs
