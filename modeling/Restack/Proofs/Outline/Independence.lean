import Mathlib.Data.List.Basic
import Restack.Proofs.Conversion.SourceFiles
import Restack.Proofs.Outline.BackReferences

/-!
# Files of an outline by themselves

What an outline says of a file depends on no file with another path. So the outline of two lists of
files that share no path is the outline of the one followed by that of the other, part by part, and
a file that cannot be read takes nothing away from what is said of the others. Within a list a path
may recur: the lines of a file are those of the last file with its path.
-/

namespace Restack.Outline

open Restack.Text

/-- A remark that something is wrong with a file. -/
def Diagnostic.isWarning (diagnostic : Diagnostic) : Bool := diagnostic.severity == "warning"

/-- Whatever is remarked about the packages of a file is a warning. -/
theorem Dependency.isWarning_of_ofContent {file content : String} :
    ∀ diagnostic ∈ (Dependency.ofContent file content).2, diagnostic.isWarning = true := by
  unfold Dependency.ofContent
  split
  · simp [Diagnostic.isWarning, Diagnostic.ofFault]
  · simp [Diagnostic.isWarning]
  · split
    · simp
    · simp [Diagnostic.isWarning, Diagnostic.ofFault]
  · simp

namespace Project

/-- The warnings of an outline. -/
def warnings (project : Project) : List Diagnostic := project.diagnostics.filter (·.isWarning)

/-- An outline that says what two outlines say, one after the other in each of its lists. -/
structure Joins (whole left right : Project) : Prop where
  components : whole.components = left.components ++ right.components
  pages : whole.pages = left.pages ++ right.pages
  layouts : whole.layouts = left.layouts ++ right.layouts
  styles : whole.styles = left.styles ++ right.styles
  services : whole.services = left.services ++ right.services
  stores : whole.stores = left.stores ++ right.stores
  routes : whole.routes = left.routes ++ right.routes
  models : whole.models = left.models ++ right.models
  environment : whole.environment = left.environment ++ right.environment
  dependencies : whole.dependencies = left.dependencies ++ right.dependencies
  warnings : whole.warnings.Perm (left.warnings ++ right.warnings)

variable {first second : List SourceFile}

/-- The lines at a path are those of the last file there. -/
theorem linesOf_eq (files : List SourceFile) (path : String) :
    linesOf files path = ((lastFile? files path).map fun file => lines file.content).getD [] := by
  rw [linesOf, lastFile?]
  cases files.reverse.find? (·.path == path) <;> rfl

/-- The last file at a path is in the second list if there is one. -/
theorem lastFile?_append (path : String) :
    lastFile? (first ++ second) path = (lastFile? second path).or (lastFile? first path) := by
  rw [lastFile?, List.reverse_append, List.find?_append, lastFile?, lastFile?]

/-- Where no file has the path there is no last one. -/
theorem lastFile?_eq_none {files : List SourceFile} {path : String}
    (h : ∀ file ∈ files, file.path ≠ path) : lastFile? files path = none := by
  refine List.find?_eq_none.mpr fun file hfile => ?_
  simpa using h file (List.mem_reverse.mp hfile)

/-- Files behind others do not change the lines of those if they have other paths. -/
theorem linesOf_append_left {path : String} (h : ∀ file ∈ second, file.path ≠ path) :
    linesOf (first ++ second) path = linesOf first path := by
  rw [linesOf_eq, lastFile?_append, lastFile?_eq_none h, Option.none_or, linesOf_eq]

/-- Files in front of others do not change the lines of those if they have other paths. -/
theorem linesOf_append_right {path : String} (h : ∀ file ∈ first, file.path ≠ path) :
    linesOf (first ++ second) path = linesOf second path := by
  rw [linesOf_eq, lastFile?_append, lastFile?_eq_none h, Option.or_none, linesOf_eq]

/-- What is read of files that pass a test comes from either list by itself. -/
theorem collect_append (hapart : ∀ a ∈ first, ∀ b ∈ second, a.path ≠ b.path) {α : Type}
    (read : String → List String → List α) (p : SourceFile → Bool) :
    (((first ++ second).filter p).flatMap fun file =>
        read file.path (linesOf (first ++ second) file.path)) =
      ((first.filter p).flatMap fun file => read file.path (linesOf first file.path)) ++
        (second.filter p).flatMap fun file => read file.path (linesOf second file.path) := by
  rw [List.filter_append, List.flatMap_append]
  congr 1
  · refine List.flatMap_congr fun file hfile => ?_
    have hfirst := (List.mem_filter.mp hfile).1
    rw [linesOf_append_left fun other hother => (hapart file hfirst other hother).symm]
  · refine List.flatMap_congr fun file hfile => ?_
    have hsecond := (List.mem_filter.mp hfile).1
    rw [linesOf_append_right fun other hother => hapart other hother file hsecond]

/-- The warnings of an outline are the remarks about packages. -/
theorem warnings_ofFiles (files : List SourceFile) (framework : String) :
    (ofFiles files framework).warnings =
      ((files.filter fun file => Role.config.fits file.path).filter fun file =>
        hasEnd "package.json" file.path).flatMap fun file =>
          (Dependency.ofContent file.path file.content).2 := by
  have hfamily : ∀ unknown : Bool,
      (if unknown then [noFamily framework] else []).filter Diagnostic.isWarning = [] := by
    intro unknown
    cases unknown <;> rfl
  simp only [warnings, ofFiles, List.filter_append, hfamily, List.nil_append, List.flatMap_map]
  refine List.filter_eq_self.mpr fun diagnostic hdiagnostic => ?_
  obtain ⟨file, -, hfile⟩ := List.mem_flatMap.mp hdiagnostic
  exact Dependency.isWarning_of_ofContent diagnostic hfile

/-- The outline of two lists of files that share no path joins the outlines of both. -/
theorem ofFiles_append (hapart : ∀ a ∈ first, ∀ b ∈ second, a.path ≠ b.path) (framework : String) :
    (ofFiles (first ++ second) framework).Joins (ofFiles first framework)
      (ofFiles second framework) where
  components := by
    cases hfamily : Family.ofName? framework with
    | none => simp only [ofFiles, hfamily, List.append_nil]
    | some family =>
      simp only [ofFiles, hfamily]
      exact collect_append hapart family.components _
  pages := by
    simp only [ofFiles, List.filter_filter]
    exact collect_append hapart (fun path lines => [Page.ofLines path lines]) _
  layouts := by
    simp only [ofFiles, List.filter_filter]
    exact collect_append hapart (fun path lines => [Layout.ofLines path lines]) _
  styles := by simp only [ofFiles, List.filter_append, List.map_append]
  services := collect_append hapart Service.ofLines _
  stores := collect_append hapart Store.ofLines _
  routes := collect_append hapart Route.ofLines _
  models := collect_append hapart Model.ofLines _
  environment := by
    have h := collect_append hapart EnvironmentUse.ofLines fun _ => true
    simp only [List.filter_true] at h
    exact h
  dependencies := by
    simp only [ofFiles, List.filter_append, List.map_append, List.flatMap_append]
  warnings := by
    rw [warnings_ofFiles, warnings_ofFiles, warnings_ofFiles, List.filter_append,
      List.filter_append, List.flatMap_append]

/-- The files that records are read as come from these records. -/
theorem paths_of_mapM {pathFault : Value.Kind → Fault} {records : List Value}
    {files : List SourceFile} (h : records.mapM (SourceFile.ofValue pathFault) = .ok files) :
    ∀ file ∈ files, ∃ record ∈ records, record.field "path" = .ok (.str file.path) := by
  intro file hfile
  obtain ⟨record, hrecord, hread⟩ := (mem_mapM_iff h).mp hfile
  exact ⟨record, hrecord, (SourceFile.fields_of_ofValue hread).1⟩

/-- **Files are outlined by themselves.** Every list of records of source files has an outline, for
whatever framework, and the outline of two lists that share no path joins the outlines of both: what
is said of a file, even that it cannot be read, leaves alone what is said of files with other
paths. -/
theorem ofRecords_append {first second : List Value} (framework : String)
    (hfirst : ∀ record ∈ first, record.IsSourceFile)
    (hsecond : ∀ record ∈ second, record.IsSourceFile)
    (hapart : ∀ a ∈ first, ∀ b ∈ second, a.field "path" ≠ b.field "path") :
    ∃ left right whole, ofRecords first framework = .ok left ∧
      ofRecords second framework = .ok right ∧ ofRecords (first ++ second) framework = .ok whole ∧
      whole.Joins left right := by
  let read := SourceFile.ofValue (.noAttribute · "endswith")
  obtain ⟨files, hfiles⟩ : ∃ files, first.mapM read = .ok files :=
    mapM_isOk_iff.mpr fun record hrecord => SourceFile.ofValue_isOk_iff.mpr (hfirst record hrecord)
  obtain ⟨more, hmore⟩ : ∃ more, second.mapM read = .ok more :=
    mapM_isOk_iff.mpr fun record hrecord => SourceFile.ofValue_isOk_iff.mpr (hsecond record hrecord)
  have hall : (first ++ second).mapM read = .ok (files ++ more) := by
    rw [List.mapM_append, hfiles, hmore]
    rfl
  have hpaths : ∀ a ∈ files, ∀ b ∈ more, a.path ≠ b.path := by
    intro a ha b hb heq
    obtain ⟨record, hrecord, hpath⟩ := paths_of_mapM hfiles a ha
    obtain ⟨other, hother, hpath'⟩ := paths_of_mapM hmore b hb
    exact hapart record hrecord other hother (by rw [hpath, hpath', heq])
  refine ⟨ofFiles files framework, ofFiles more framework, ofFiles (files ++ more) framework,
    ?_, ?_, ?_, ofFiles_append hpaths framework⟩
  · exact congrArg (· >>= fun files => pure (ofFiles files framework)) hfiles
  · exact congrArg (· >>= fun files => pure (ofFiles files framework)) hmore
  · exact congrArg (· >>= fun files => pure (ofFiles files framework)) hall

/-- The record of a source file. -/
def recordOf (path content : String) : Value :=
  .object [("path", .str path), ("content", .str content)]

/-- A list in which a path recurs, and one with a package description that cannot be read. -/
theorem ofRecords_append_unreadable :
    let first := [recordOf "src/services/cart.js" "class CartService \x7b\x7d",
      recordOf "src/services/cart.js" "const rate = process.env.RATE;"]
    let second := [recordOf "package.json" "\x7b\"dependencies\": [1]\x7d",
      recordOf "src/Cart.jsx" "function Cart() \x7b\x7d"]
    (∀ record ∈ first, record.IsSourceFile) ∧ (∀ record ∈ second, record.IsSourceFile) ∧
      (∀ a ∈ first, ∀ b ∈ second, a.field "path" ≠ b.field "path") ∧
      ∃ left right whole, ofRecords first "react" = .ok left ∧
        ofRecords second "react" = .ok right ∧ ofRecords (first ++ second) "react" = .ok whole ∧
        whole.Joins left right := by
  intro first second
  have hrecord : ∀ path content, (recordOf path content).IsSourceFile := fun path content =>
    ⟨⟨path, rfl⟩, ⟨content, rfl⟩⟩
  have hfirst : ∀ record ∈ first, record.IsSourceFile := by simp [first, hrecord]
  have hsecond : ∀ record ∈ second, record.IsSourceFile := by simp [second, hrecord]
  have hapart : ∀ a ∈ first, ∀ b ∈ second, a.field "path" ≠ b.field "path" := by
    simp [first, second, recordOf, Value.field]
  exact ⟨hfirst, hsecond, hapart, ofRecords_append "react" hfirst hsecond hapart⟩

end Project

end Restack.Outline
