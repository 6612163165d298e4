import Restack.Proofs.Jobs.Session

/-!
# Making projects and jobs

A project or a job that is made is kept under the next name, and tells it. All that was kept before
is kept as it was.
-/

namespace Restack.Jobs

namespace Store

/-- The store `after` comes from `before` by a project that was made of files. -/
structure ProjectMade (tables : Analysis.Tables) (files : List Value) (project : Project)
    (before after : Store) : Prop where
  analyzed : ∃ report, Analysis.analyze tables files = .ok report
  found : ∀ report, Analysis.analyze tables files = .ok report →
    project.sourceStack = report.toValue
  files : project.files = .list files
  id : project.id = .str (before.supply.name before.named)
  supply : after.supply = before.supply
  named : after.named = before.named + 1
  jobs : ∀ name, after.job? name = before.job? name
  projects : ∀ key, after.project? key =
    if key = before.supply.name before.named then some project else before.project? key

/-- The store `after` comes from `before` by a job that was made for the project that is kept under
a name. -/
structure JobMade (key : String) (source target options : Value) (job : Job)
    (before after : Store) : Prop where
  kept : ∃ project, before.project? key = some project
  source : job.source = source
  target : job.target = target
  options : job.options = options
  project : job.project = .str key
  id : job.id = .str (before.supply.name before.named)
  status : job.status = .pending
  progress : job.progress = .int 0
  result : job.result = .null
  error : job.error = .null
  supply : after.supply = before.supply
  named : after.named = before.named + 1
  projects : ∀ key, after.project? key = before.project? key
  jobs : ∀ name, after.job? name =
    if name = before.supply.name before.named then some job else before.job? name

variable {store made : Store}

/-- A project that is created is made. -/
theorem projectMade {tables : Analysis.Tables} {title : Value} {files : List Value}
    {project : Project} (h : store.createProject tables title files = .ok (project, made)) :
    ProjectMade tables files project store made := by
  unfold createProject at h
  cases hreport : Analysis.analyze tables files with
  | error fault =>
    rw [hreport] at h
    cases h
  | ok report =>
    rw [hreport] at h
    cases h
    exact
      { analyzed := ⟨report, hreport⟩
        found := fun report' hreport' => by
          obtain rfl : report = report' := Except.ok.inj (hreport.symm.trans hreport')
          rfl
        files := rfl
        id := rfl
        supply := rfl
        named := rfl
        jobs := fun _ => rfl
        projects := fun key => Value.lookup_setField _ key _ _ }

/-- A job that is created is made. -/
theorem jobMade {key : String} {source target layer options : Value} {job : Job}
    (h : store.createJob key source target layer options = some (job, made)) :
    JobMade key source target options job store made := by
  unfold createJob at h
  cases hproject : store.project? key with
  | none =>
    rw [hproject] at h
    cases h
  | some project =>
    rw [hproject] at h
    cases h
    exact
      { kept := ⟨project, hproject⟩
        source := rfl
        target := rfl
        options := rfl
        project := rfl
        id := rfl
        status := rfl
        progress := rfl
        result := rfl
        error := rfl
        supply := rfl
        named := rfl
        projects := fun _ => rfl
        jobs := fun name => Value.lookup_setField _ name _ _ }

end Store

end Restack.Jobs
