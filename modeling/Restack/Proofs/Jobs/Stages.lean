import Restack.Proofs.Jobs.Listening

/-!
# The stages of a run

The stages of a run compute one result, and are interrupted in one of two ways. What holds at every
stage of all runs is shown once, by `Work.stages_leads`, from what holds at the entrance to a stage.
-/

namespace Restack.Jobs

namespace Work

variable {session : Session} {name key : String}

/-- The listeners are told of a row that is kept, and one that breaks off breaks off the work. -/
theorem publish_leads {row : Job} {good : Unit → Session → Prop}
    {bad : Interruption → Session → Prop} (hrow : session.store.job? name = some row)
    (htold : (session.publish row).1 = none → good () (session.publish row).2)
    (hbroken : ∀ message, (session.publish row).1 = some message →
      bad (.failure message) (session.publish row).2) :
    Leads (publish name) session good bad := by
  unfold publish
  apply Leads.get
  simp only [hrow]
  revert htold hbroken
  obtain ⟨broken, after⟩ := session.publish row
  intro htold hbroken
  cases broken with
  | none => exact htold rfl
  | some message => exact hbroken message rfl

/-- A stage is entered unless a request to cancel the job stands. The rows are brought up to date
before anybody is told. -/
theorem enter_leads {stage : Stage × Nat} {good : Unit → Session → Prop}
    {bad : Interruption → Session → Prop}
    (hcancelled : name ∈ session.cancelling → bad .cancelled session)
    (hentered : name ∉ session.cancelling → ∀ after, session.Recorded name key
      (fun row => { row with status := .processing, stage := stage.1, progress := .ofNat stage.2 })
      (fun row => { row with status := .converting, progress := .ofNat stage.2 }) after →
      Leads (publish name) after good bad) :
    Leads (enter name (.str key) stage) session good bad := by
  unfold enter
  apply Leads.get
  by_cases hmem : name ∈ session.cancelling
  · have hcontains : session.cancelling.contains name = true := by simpa using hmem
    simp only [hcontains, if_true]
    exact hcancelled hmem
  · have hcontains : session.cancelling.contains name = false := by simpa using hmem
    simp only [hcontains, Bool.false_eq_true, if_false]
    apply Leads.modify
    refine .bind (.revise_str ?_)
    exact hentered hmem _ (Session.recorded_update rfl rfl rfl rfl rfl)

/-- A step of a computation within the work. The computation `outcome` runs along: it goes on where
the work goes on, and has the fault that the work fails with. -/
theorem attempt_leads {α β γ : Type} {step : Except Fault α} {next : α → Work β}
    {rest : α → Except Fault γ} {outcome : Except Fault γ} {good : β → Session → Prop}
    {bad : Interruption → Session → Prop} (houtcome : outcome = step >>= rest)
    (hok : ∀ a, step = .ok a → outcome = rest a → Leads (next a) session good bad)
    (hfault : ∀ fault, outcome = .error fault → bad (.failure fault.message) session) :
    Leads (attempt step >>= next) session good bad := by
  cases step with
  | ok a => exact hok a rfl houtcome
  | error fault => exact hfault fault houtcome

/-- What the stages compute if nobody interferes. -/
def computed (service : Service) (job : Job) (project : Project) :
    Except Fault Conversion.Result := do
  let files ← project.files.elements
  let _ ← Analysis.analyze service.tables files
  let parsed ← Conversion.parseSources service.parser files
  let lowered ← Conversion.lowerReports job.source.display parsed.passed
  let target ← job.target.textFor "lower"
  let emitted ←
    Conversion.emitNodes target job.options (lowered.passed.map Ir.Node.toValue)
  let more ←
    service.packaging job.source.display target job.options parsed.passed.length
      lowered.passed.length
  let files := emitted.passed ++ more
  return ⟨!files.isEmpty, files, emitted.remarks, parsed.remarks ++ lowered.remarks⟩

/-- What holds at every stage: `Stands done` holds after the stages `done`, if it holds at the
start, each stage adds itself to it, and the analysis of the first stage leaves it as it is. The
stages give the computed result, or are interrupted at an entrance or, within a stage, by the fault
of the computation. -/
theorem stages_leads {service : Service} {job : Job} {project : Project}
    {good : Conversion.Result → Session → Prop} {bad : Interruption → Session → Prop}
    (Stands : List (Stage × Nat) → Session → Prop) (hstart : Stands [] session)
    (henter : ∀ done stage before, done ++ [stage] <+: Stage.table → Stands done before →
      Leads (enter name project.id stage) before (fun _ => Stands (done ++ [stage])) bad)
    (hfound : ∀ done before files analysis, project.files.elements = .ok files →
      Analysis.analyze service.tables files = .ok analysis → Stands done before →
      Leads (revise project.id fun row => { row with sourceStack := analysis.toValue }) before
        (fun _ => Stands done) bad)
    (hfault : ∀ done before fault, done ≠ [] → Stands done before →
      computed service job project = .error fault → bad (.failure fault.message) before)
    (hdone : ∀ result after, computed service job project = .ok result →
      Stands Stage.table after → good result after) :
    Leads (stages service name job project) session good bad := by
  obtain ⟨outcome, houtcome⟩ : ∃ outcome, outcome = computed service job project := ⟨_, rfl⟩
  rw [← houtcome] at hfault hdone
  unfold computed at houtcome
  unfold stages
  refine .bind ((henter [] (.analyzing, 10) session ⟨_, rfl⟩ hstart).imp ?_ fun _ _ h => h)
  intro _ analyzing hstands
  refine attempt_leads houtcome (fun files hfiles houtcome => ?_) fun _ =>
    hfault _ _ _ (by simp) hstands
  refine attempt_leads houtcome (fun analysis hanalysis houtcome => ?_) fun _ =>
    hfault _ _ _ (by simp) hstands
  refine .bind ((hfound _ _ files analysis hfiles hanalysis hstands).imp ?_ fun _ _ h => h)
  intro _ described hstands
  refine .bind ((henter _ (.parsing, 25) _ ⟨_, rfl⟩ hstands).imp ?_ fun _ _ h => h)
  intro _ parsing hstands
  refine attempt_leads houtcome (fun parsed _ houtcome => ?_) fun _ =>
    hfault _ _ _ (by simp) hstands
  refine .bind ((henter _ (.lowering, 50) _ ⟨_, rfl⟩ hstands).imp ?_ fun _ _ h => h)
  intro _ lowering hstands
  refine attempt_leads houtcome (fun lowered _ houtcome => ?_) fun _ =>
    hfault _ _ _ (by simp) hstands
  refine .bind ((henter _ (.emitting, 75) _ ⟨_, rfl⟩ hstands).imp ?_ fun _ _ h => h)
  intro _ emitting hstands
  refine attempt_leads houtcome (fun target _ houtcome => ?_) fun _ =>
    hfault _ _ _ (by simp) hstands
  refine attempt_leads houtcome (fun emitted _ houtcome => ?_) fun _ =>
    hfault _ _ _ (by simp) hstands
  refine .bind ((henter _ (.packaging, 90) _ ⟨_, rfl⟩ hstands).imp ?_ fun _ _ h => h)
  intro _ packaging hstands
  refine attempt_leads houtcome (fun more _ houtcome => ?_) fun _ =>
    hfault _ _ _ (by simp) hstands
  exact hdone _ _ houtcome hstands

end Work

end Restack.Jobs
