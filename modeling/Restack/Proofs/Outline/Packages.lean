import Restack.Proofs.Document.Reading
import Restack.Proofs.Outline.Independence

/-!
# Packages that a project reports

A description of packages counts as a whole or not at all. If it is an object whose two lists are
objects, or missing or false, then each of their entries is reported once, in order, and nothing is
remarked. If it is no document, or if one of its lists is anything else, then no package is
reported and there is one warning. Whatever a description comes to, the packages of the other
descriptions stay as they are.
-/

namespace Restack

namespace Document

/-- The entries of a field: those of an object, and none if the field is missing or false. -/
inductive IsListing (fields : List (Str × Document)) (key : String) :
    List (Str × Document) → Prop where
  | object {entries : List (Str × Document)}
    (hlookup : fields.lookup (.ofString key) = some (.object entries)) :
    IsListing fields key entries
  | falsy (hfalsy : ∀ v ∈ fields.lookup (.ofString key), v.truthy = false) :
    IsListing fields key []

/-- A field that is neither missing nor false nor an object. -/
structure IsMisshapen (fields : List (Str × Document)) (key : String) (v : Document) : Prop where
  lookup : fields.lookup (.ofString key) = some v
  truthy : v.truthy = true
  kind : v.kind ≠ .object

variable {fields entries : List (Str × Document)} {key : String} {v : Document}

/-- The entries of a field can be read, or it is misshapen. -/
theorem isListing_or_isMisshapen (fields : List (Str × Document)) (key : String) :
    (∃ entries, IsListing fields key entries) ∨ ∃ v, IsMisshapen fields key v := by
  cases hlookup : fields.lookup (.ofString key) with
  | none => exact .inl ⟨[], .falsy (by simp [hlookup])⟩
  | some v =>
    by_cases htruthy : v.truthy = true
    · cases v with
      | object entries => exact .inl ⟨entries, .object hlookup⟩
      | _ => exact .inr ⟨_, hlookup, htruthy, nofun⟩
    · exact .inl ⟨[], .falsy (by simpa [hlookup] using htruthy)⟩

/-- In a document no key of a field is set twice. -/
theorem IsListing.nodup_keys {text : List Char} (hdocument : IsDocument text (.object fields))
    (h : IsListing fields key entries) : (entries.map Prod.fst).Nodup := by
  cases h with
  | object hlookup => exact hdocument.nodup_keys hlookup
  | falsy => exact List.nodup_nil

end Document

namespace Outline

open Restack.Text (hasEnd)
open Document (IsDocument IsListing IsMisshapen Str)

namespace Dependency

variable {fields entries : List (Str × Document)} {key : String} {v : Document}

/-- The entries of a list that can be read are those that it has. -/
theorem entriesOf_eq_ok (h : IsListing fields key entries) :
    entriesOf key fields = .ok entries := by
  cases h with
  | object hlookup => rw [entriesOf, hlookup]
  | falsy hfalsy =>
    unfold entriesOf
    split
    · rfl
    · rename_i hlookup
      have hnone := hfalsy _ hlookup
      rw [Document.truthy, Bool.not_eq_false', List.isEmpty_iff] at hnone
      rw [hnone]
    · rename_i hlookup
      exact if_neg (by simp [hfalsy _ hlookup])

/-- A misshapen list has no entries that could be asked for. -/
theorem entriesOf_eq_error (h : IsMisshapen fields key v) :
    entriesOf key fields = .error (.noAttribute v.kind "items") := by
  unfold entriesOf
  rw [h.lookup]
  split
  · rename_i hnone
    cases hnone
  · rename_i hobject
    cases hobject
    exact absurd rfl h.kind
  · rename_i hfound
    cases hfound
    exact if_pos h.truthy

/-- The packages that entries name, each with its version. -/
def ofEntries (entries : List (Str × Document)) (kind : String) (isRequired : Bool) :
    List Dependency :=
  entries.map fun entry => ⟨entry.1, entry.2.display, kind, isRequired⟩

/-- The packages of a description and the remarks about it, by its path and its content. -/
inductive IsReport (path content : String) : List Dependency → List Diagnostic → Prop where
  /-- Both lists can be read. -/
  | listed {fields needed forDevelopment : List (Str × Document)}
    (hcontent : IsDocument content.toList (.object fields))
    (hneeded : IsListing fields "dependencies" needed)
    (hforDevelopment : IsListing fields "devDependencies" forDevelopment)
    (honce : (needed.map Prod.fst).Nodup ∧ (forDevelopment.map Prod.fst).Nodup) :
    IsReport path content
      (ofEntries needed "dependency" true ++ ofEntries forDevelopment "devDependency" false) []
  /-- The content is no document. -/
  | unreadable {remark : Diagnostic} (hcontent : ∀ v, ¬IsDocument content.toList v)
    (hfile : remark.file = path) (hwarning : remark.isWarning = true) :
    IsReport path content [] [remark]
  /-- One of the lists cannot be read. -/
  | misshapen {fields : List (Str × Document)} {key : String} {v : Document}
    (hcontent : IsDocument content.toList (.object fields))
    (hkey : key = "dependencies" ∨ key = "devDependencies") (hlist : IsMisshapen fields key v) :
    IsReport path content [] [.ofFault path (.noAttribute v.kind "items")]
  /-- The content is a document, but no object. -/
  | other {v : Document} (hcontent : IsDocument content.toList v) (hkind : v.kind ≠ .object) :
    IsReport path content [] []

/-- A description gives the packages of both of its lists, or one of them is misshapen. -/
theorem ofDescription_cases (fields : List (Str × Document)) :
    (∃ needed forDevelopment, IsListing fields "dependencies" needed ∧
      IsListing fields "devDependencies" forDevelopment ∧
      ofDescription fields = .ok
        (ofEntries needed "dependency" true ++ ofEntries forDevelopment "devDependency" false)) ∨
      ∃ key v, (key = "dependencies" ∨ key = "devDependencies") ∧ IsMisshapen fields key v ∧
        ofDescription fields = .error (.noAttribute v.kind "items") := by
  unfold ofDescription listed
  rcases Document.isListing_or_isMisshapen fields "dependencies" with
    ⟨needed, hneeded⟩ | ⟨v, hlist⟩
  · rw [entriesOf_eq_ok hneeded]
    rcases Document.isListing_or_isMisshapen fields "devDependencies" with
      ⟨forDevelopment, hforDevelopment⟩ | ⟨v, hlist⟩
    · rw [entriesOf_eq_ok hforDevelopment]
      exact .inl ⟨needed, forDevelopment, hneeded, hforDevelopment, rfl⟩
    · rw [entriesOf_eq_error hlist]
      exact .inr ⟨_, v, .inr rfl, hlist, rfl⟩
  · rw [entriesOf_eq_error hlist]
    exact .inr ⟨_, v, .inl rfl, hlist, rfl⟩

/-- A list that can be read does not count beside one that cannot. -/
example : ofDescription
    [(.ofString "dependencies", .object [(.ofString "cart", .str (.ofString "1"))]),
      (.ofString "devDependencies", .list [.int 1])] = .error (.noAttribute .list "items") := by
  rfl

/-- What the content of a description comes to is a report on it. -/
theorem isReport_ofContent (path content : String) :
    IsReport path content (ofContent path content).1 (ofContent path content).2 := by
  unfold ofContent
  split
  · rename_i count line hread
    exact .unreadable (Document.exists_read_eq_error_iff.mp ⟨_, hread⟩) rfl rfl
  · rename_i flaw _ hread
    exact .unreadable (Document.exists_read_eq_error_iff.mp ⟨_, hread⟩) rfl rfl
  · rename_i fields hread
    have hcontent := Document.read_eq_ok_iff.mp hread
    rcases ofDescription_cases fields with
      ⟨needed, forDevelopment, hneeded, hforDevelopment, hlists⟩ | ⟨key, v, hkey, hlist, hlists⟩
    · rw [hlists]
      exact .listed hcontent hneeded hforDevelopment
        ⟨hneeded.nodup_keys hcontent, hforDevelopment.nodup_keys hcontent⟩
    · rw [hlists]
      exact .misshapen hcontent hkey hlist
  · rename_i v hkind hread
    refine .other (Document.read_eq_ok_iff.mp hread) fun hobject => ?_
    cases v with
    | object fields => exact hkind fields rfl
    | _ => cases hobject

end Dependency

namespace Project

/-- The files that describe packages. -/
def descriptions (files : List SourceFile) : List SourceFile :=
  (files.filter fun file => Role.config.fits file.path).filter fun file =>
    hasEnd "package.json" file.path

/-- The dependencies of a project are those of its package descriptions, file by file. -/
theorem dependencies_ofFiles (files : List SourceFile) (framework : String) :
    (ofFiles files framework).dependencies =
      (descriptions files).flatMap fun file => (Dependency.ofContent file.path file.content).1 := by
  simp only [ofFiles, descriptions, List.flatMap_map]

/-- A package description stands among the others where its file does. -/
theorem descriptions_append (before after : List SourceFile) {file : SourceFile}
    (hpath : hasEnd "package.json" file.path = true) :
    descriptions (before ++ file :: after) =
      descriptions before ++ file :: descriptions after := by
  have hconfig : Role.config.fits file.path = true := by
    rw [Role.fits, Role.endings, List.any_cons, hpath]
    rfl
  simp only [descriptions, List.filter_append, List.filter_cons, hconfig, hpath, if_true]

/-- **Descriptions of packages are read all or nothing.** Wherever a description stands among the
files, what it comes to is put between the packages and the warnings of the files before it and of
those behind it. -/
theorem ofFiles_reports_packages (before after : List SourceFile) (file : SourceFile)
    (framework : String) (hpath : hasEnd "package.json" file.path = true) :
    ∃ found remarks, Dependency.IsReport file.path file.content found remarks ∧
      (ofFiles (before ++ file :: after) framework).dependencies =
        (ofFiles before framework).dependencies ++ found ++
          (ofFiles after framework).dependencies ∧
      (ofFiles (before ++ file :: after) framework).warnings =
        (ofFiles before framework).warnings ++ remarks ++ (ofFiles after framework).warnings := by
  have hwarnings : ∀ files : List SourceFile, (ofFiles files framework).warnings =
      (descriptions files).flatMap fun file =>
        (Dependency.ofContent file.path file.content).2 :=
    fun files => warnings_ofFiles files framework
  refine ⟨_, _, Dependency.isReport_ofContent file.path file.content, ?_, ?_⟩
  · rw [dependencies_ofFiles, dependencies_ofFiles, dependencies_ofFiles,
      descriptions_append before after hpath, List.flatMap_append, List.flatMap_cons,
      List.append_assoc]
  · rw [hwarnings, hwarnings, hwarnings, descriptions_append before after hpath,
      List.flatMap_append, List.flatMap_cons, List.append_assoc]

/-- Two packages whose names differ in a unit that stands alone are two packages. -/
example :
    let content := "\x7b\"dependencies\": \x7b\"\\ud800\": \"1\", \"\\ud801\": \"2\"\x7d\x7d"
    (ofFiles [⟨"package.json", content⟩] "react").dependencies.map (·.version.printed) =
      ["1", "2"] := by
  decide +kernel

/-- A description whose second list cannot be read, behind one that can. -/
theorem ofFiles_reports_packages_misshapen :
    let shop : SourceFile := ⟨"shop/package.json", "\x7b\"dependencies\": \x7b\"a\": \"1\"\x7d\x7d"⟩
    let cart : SourceFile := ⟨"package.json",
      "\x7b\"dependencies\": \x7b\"b\": \"2\"\x7d, \"devDependencies\": [1]\x7d"⟩
    hasEnd "package.json" cart.path = true ∧
      ∃ found remarks, Dependency.IsReport cart.path cart.content found remarks ∧
        (ofFiles ([shop] ++ cart :: []) "react").dependencies =
          (ofFiles [shop] "react").dependencies ++ found ++ (ofFiles [] "react").dependencies ∧
        (ofFiles ([shop] ++ cart :: []) "react").warnings =
          (ofFiles [shop] "react").warnings ++ remarks ++ (ofFiles [] "react").warnings :=
  ⟨rfl, ofFiles_reports_packages _ [] _ "react" rfl⟩

end Project

end Outline

end Restack
