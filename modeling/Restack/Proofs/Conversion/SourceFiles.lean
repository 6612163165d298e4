import Restack.Analysis.Detection

/-!
# Records of source files

Steps over a list come to an end exactly if each of them does, so faults come from single items
only. A record is read as a source file exactly if its path and its content are texts.
-/

namespace Restack

namespace Value

/-- A record with fields. -/
def IsRecord (value : Value) : Prop := ∃ fields, value = .object fields

/-- A record of a source file: its path and its content are texts. -/
structure IsSourceFile (record : Value) : Prop where
  path : ∃ path, record.field "path" = .ok (.str path)
  content : ∃ content, record.field "content" = .ok (.str content)

/-- A field of a record can always be asked for. -/
theorem IsRecord.get?_ok {value : Value} (h : value.IsRecord) (key : String) :
    ∃ found, value.get? key = .ok found := by
  obtain ⟨fields, rfl⟩ := h
  exact ⟨_, rfl⟩

/-- A record can be asked for every key. -/
theorem IsRecord.get_ok {value : Value} (h : value.IsRecord) (key : String) :
    ∃ found, value.get key = .ok found := by
  obtain ⟨fields, rfl⟩ := h
  exact ⟨_, rfl⟩

end Value

section Steps

variable {α β : Type} {first : Except Fault α} {rest : α → Except Fault β} {P : β → Prop} {a : α}

/-- A step comes to an end with a result if what it begins with does, and what it goes on with. -/
theorem bind_isOk_and (hfirst : ∃ a, first = .ok a) (hrest : ∀ a, ∃ b, rest a = .ok b ∧ P b) :
    ∃ b, (first >>= rest) = .ok b ∧ P b := by
  obtain ⟨a, rfl⟩ := hfirst
  exact hrest a

/-- A step whose result is known is followed by one that gives what is wanted. -/
theorem bind_isOk_and_of_eq (hfirst : first = .ok a) (hrest : ∃ b, rest a = .ok b ∧ P b) :
    ∃ b, (first >>= rest) = .ok b ∧ P b := by
  rw [hfirst]
  exact hrest

/-- Two steps that cannot fail do not fail one after the other. -/
theorem bind_isOk (hfirst : ∃ a, first = .ok a) (hrest : ∀ a, ∃ b, rest a = .ok b) :
    ∃ b, (first >>= rest) = .ok b := by
  obtain ⟨a, rfl⟩ := hfirst
  exact hrest a

/-- A step whose result is known is followed by one that does not fail. -/
theorem bind_isOk_of_eq (hfirst : first = .ok a) (hrest : ∃ b, rest a = .ok b) :
    ∃ b, (first >>= rest) = .ok b := by
  rw [hfirst]
  exact hrest

/-- A step that came to an end began with one that did. -/
theorem exists_of_bind_eq_ok {b : β} (h : (first >>= rest) = .ok b) :
    ∃ a, first = .ok a ∧ rest a = .ok b := by
  cases first with
  | error fault => cases h
  | ok a => exact ⟨a, rfl, h⟩

end Steps

/-- Steps over a list come to an end exactly if each of them does. -/
theorem mapM_isOk_iff {α β : Type} {step : α → Except Fault β} {items : List α} :
    (∃ results, items.mapM step = .ok results) ↔
      ∀ item ∈ items, ∃ result, step item = .ok result := by
  induction items with
  | nil => simp [pure, Except.pure]
  | cons item rest ih =>
    rw [List.forall_mem_cons, ← ih, List.mapM_cons]
    cases step item with
    | error fault => simp [bind, Except.bind]
    | ok first =>
      cases rest.mapM step with
      | error fault => simp [bind, Except.bind]
      | ok others => simp [bind, Except.bind, pure, Except.pure]

/-- What all steps over a list come to is made of what each of them comes to. -/
theorem mem_mapM_iff {α β : Type} {step : α → Except Fault β} {items : List α} {results : List β}
    (h : items.mapM step = .ok results) {result : β} :
    result ∈ results ↔ ∃ item ∈ items, step item = .ok result := by
  induction items generalizing results with
  | nil =>
    cases h
    simp
  | cons item rest ih =>
    rw [List.mapM_cons] at h
    obtain ⟨first, hfirst, h⟩ := exists_of_bind_eq_ok h
    obtain ⟨others, hrest, h⟩ := exists_of_bind_eq_ok h
    cases h
    simp [ih hrest, hfirst, eq_comm]

/-- What the step for an item of a list comes to is among what all of them come to. -/
theorem exists_mem_of_mapM {α β : Type} {step : α → Except Fault β} {items : List α}
    {results : List β} (h : items.mapM step = .ok results) {item : α} (hitem : item ∈ items) :
    ∃ result ∈ results, step item = .ok result := by
  obtain ⟨result, hresult⟩ := mapM_isOk_iff.mp ⟨results, h⟩ item hitem
  exact ⟨result, (mem_mapM_iff h).mpr ⟨item, hitem, hresult⟩, hresult⟩

/-- What each step over a list comes to holds of all that they come to. -/
theorem mapM_isOk_and {α β : Type} {step : α → Except Fault β} {P : β → Prop} {items : List α}
    (h : ∀ item ∈ items, ∃ result, step item = .ok result ∧ P result) :
    ∃ results, items.mapM step = .ok results ∧ ∀ result ∈ results, P result := by
  obtain ⟨results, hresults⟩ := mapM_isOk_iff.mpr fun item hitem =>
    (h item hitem).imp fun _ hresult => hresult.1
  refine ⟨results, hresults, fun result hresult => ?_⟩
  obtain ⟨item, hitem, hstep⟩ := (mem_mapM_iff hresults).mp hresult
  obtain ⟨other, hother, hP⟩ := h item hitem
  obtain rfl := Except.ok.inj (hstep.symm.trans hother)
  exact hP

/-- The records that describe source files. -/
theorem SourceFile.ofValue_isOk_iff {pathFault : Value.Kind → Fault} {record : Value} :
    (∃ file, SourceFile.ofValue pathFault record = .ok file) ↔ record.IsSourceFile := by
  constructor
  · rintro ⟨file, h⟩
    unfold SourceFile.ofValue at h
    cases hpath : record.field "path" with
    | error fault =>
      rw [hpath] at h
      cases h
    | ok path =>
      cases hcontent : record.field "content" with
      | error fault =>
        rw [hpath, hcontent] at h
        cases h
      | ok content =>
        rw [hpath, hcontent] at h
        cases content with
        | str content =>
          cases path with
          | str path => exact ⟨⟨path, hpath⟩, ⟨content, hcontent⟩⟩
          | _ => cases h
        | _ => cases h
  · rintro ⟨⟨path, hpath⟩, ⟨content, hcontent⟩⟩
    refine ⟨⟨path, content⟩, ?_⟩
    unfold SourceFile.ofValue
    rw [hpath, hcontent]
    rfl

/-- A file has the path and the content of its record. -/
theorem SourceFile.fields_of_ofValue {pathFault : Value.Kind → Fault} {record : Value}
    {file : SourceFile} (h : SourceFile.ofValue pathFault record = .ok file) :
    record.field "path" = .ok (.str file.path) ∧
      record.field "content" = .ok (.str file.content) := by
  obtain ⟨path, hpath, h⟩ := exists_of_bind_eq_ok h
  obtain ⟨content, hcontent, h⟩ := exists_of_bind_eq_ok h
  obtain ⟨text, htext, h⟩ := exists_of_bind_eq_ok h
  cases path with
  | str path =>
    cases h
    cases content with
    | str content =>
      cases htext
      exact ⟨hpath, hcontent⟩
    | _ => cases htext
  | _ => cases h

end Restack
