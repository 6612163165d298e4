import Mathlib.Data.List.Induction
import Mathlib.Data.List.Nodup
import Restack.Value.Basic

/-!
# Fields that are set in turn

Setting fields in turn leaves one field for each key, the one that was set last. Fields with
different keys are left as they were set, in their order.
-/

namespace Restack.Value

variable {κ α : Type} [DecidableEq κ] {key : κ} {value : α} {fields entries : List (κ × α)}
  {entry : κ × α}

/-- The first entry is found under its key, and the others under theirs. -/
theorem lookup_cons (key other : κ) (value : α) (fields : List (κ × α)) :
    ((key, value) :: fields).lookup other =
      if other = key then some value else fields.lookup other := by
  by_cases h : other = key
  · rw [if_pos h, h]
    exact List.lookup_cons_self
  · rw [if_neg h, List.lookup_cons, beq_false_of_ne h]

/-- The value set last is found under its key, and every other key keeps its value. -/
theorem lookup_setField (key other : κ) (value : α) (fields : List (κ × α)) :
    (setField key value fields).lookup other =
      if other = key then some value else fields.lookup other := by
  induction fields with
  | nil => rw [setField, lookup_cons]
  | cons entry rest ih =>
    obtain ⟨k, v⟩ := entry
    rw [setField]
    split
    · rename_i hk
      have hk : k = key := by simpa using hk
      rw [lookup_cons, lookup_cons, hk]
      split <;> rfl
    · rename_i hk
      have hk : k ≠ key := by simpa using hk
      rw [lookup_cons, lookup_cons, ih]
      by_cases h : other = k
      · simp [h, hk]
      · simp [h]

/-- A key that is new goes to the end. -/
theorem setField_of_not_mem (h : key ∉ fields.map Prod.fst) :
    setField key value fields = fields ++ [(key, value)] := by
  induction fields with
  | nil => rfl
  | cons first rest ih =>
    rw [List.map_cons, List.mem_cons, not_or] at h
    obtain ⟨hfirst, hrest⟩ := h
    rw [setField, if_neg (by simpa using Ne.symm hfirst), ih hrest, List.cons_append]

/-- A key that is known keeps its place. -/
theorem keys_setField_of_mem (h : key ∈ fields.map Prod.fst) :
    (setField key value fields).map Prod.fst = fields.map Prod.fst := by
  induction fields with
  | nil => cases h
  | cons first rest ih =>
    rw [setField]
    split
    · rfl
    · rename_i hkey
      have hne : key ≠ first.1 := fun heq => hkey (beq_iff_eq.mpr heq.symm)
      have hrest : key ∈ rest.map Prod.fst :=
        (List.mem_cons.mp (List.map_cons ▸ h)).resolve_left hne
      rw [List.map_cons, List.map_cons, ih hrest]

/-- Setting a field leaves the keys distinct. -/
theorem nodup_keys_setField (h : (fields.map Prod.fst).Nodup) :
    ((setField key value fields).map Prod.fst).Nodup := by
  by_cases hkey : key ∈ fields.map Prod.fst
  · rwa [keys_setField_of_mem hkey]
  · rw [setField_of_not_mem hkey, List.map_append]
    refine List.nodup_append.mpr ⟨h, List.nodup_singleton key, ?_⟩
    rintro a ha b hb rfl
    rw [List.mem_singleton.mp hb] at ha
    exact hkey ha

/-- One field is left for each key. -/
theorem nodup_keys_ofEntries (entries : List (κ × α)) :
    ((ofEntries entries).map Prod.fst).Nodup := by
  suffices hfold : ∀ fields : List (κ × α), (fields.map Prod.fst).Nodup →
      ((entries.foldl (fun fields entry => setField entry.1 entry.2 fields) fields).map
        Prod.fst).Nodup from hfold [] List.nodup_nil
  induction entries with
  | nil => exact fun fields h => h
  | cons first rest ih => exact fun fields h => ih _ (nodup_keys_setField h)

/-- A key has the value that was set last. -/
theorem lookup_ofEntries (entries : List (κ × α)) (key : κ) :
    (ofEntries entries).lookup key = entries.reverse.lookup key := by
  induction entries using List.reverseRecOn with
  | nil => rfl
  | append_singleton entries last ih =>
    obtain ⟨own, value⟩ := last
    rw [List.reverse_append, List.reverse_singleton, List.singleton_append, lookup_cons, ← ih,
      ← lookup_setField, ofEntries, List.foldl_append, List.foldl_cons, List.foldl_nil, ofEntries]

/-- Where no key is used twice, a field is found under its key. -/
theorem lookup_eq_some_iff_mem (h : (fields.map Prod.fst).Nodup) :
    fields.lookup entry.1 = some entry.2 ↔ entry ∈ fields := by
  induction fields with
  | nil => exact iff_of_false nofun List.not_mem_nil
  | cons first rest ih =>
    obtain ⟨hfirst, hrest⟩ := List.nodup_cons.mp h
    rw [lookup_cons, List.mem_cons]
    split
    · rename_i hkey
      have hnone : entry ∉ rest := fun hmem => hfirst (hkey ▸ List.mem_map_of_mem hmem)
      rw [or_iff_left hnone, Prod.ext_iff, and_iff_right hkey, Option.some.injEq, eq_comm]
    · rename_i hkey
      have hne : entry ≠ first := fun heq => hkey (congrArg Prod.fst heq)
      rw [or_iff_right hne, ih hrest]

/-- A field is left exactly if it was set, and its key was not set again. -/
theorem mem_ofEntries_iff : entry ∈ ofEntries entries ↔
    ∃ before after, entries = before ++ entry :: after ∧ ∀ other ∈ after, other.1 ≠ entry.1 := by
  rw [← lookup_eq_some_iff_mem (nodup_keys_ofEntries entries), lookup_ofEntries,
    List.lookup_eq_some_iff]
  constructor
  · rintro ⟨after, before, hentries, hafter⟩
    refine ⟨before.reverse, after.reverse, ?_, fun other hother => ?_⟩
    · rw [← List.reverse_reverse entries, hentries]
      simp
    · exact (bne_iff_ne.mp (hafter other (List.mem_reverse.mp hother))).symm
  · rintro ⟨before, after, rfl, hafter⟩
    refine ⟨after.reverse, before.reverse, by simp, fun other hother => ?_⟩
    exact bne_iff_ne.mpr (hafter other (List.mem_reverse.mp hother)).symm

/-- A field that is left was set as it is. -/
theorem mem_of_mem_ofEntries (h : entry ∈ ofEntries entries) : entry ∈ entries := by
  obtain ⟨before, after, rfl, -⟩ := mem_ofEntries_iff.mp h
  exact List.mem_append_right _ List.mem_cons_self

/-- A key that was set is left, with the value that was set last. -/
theorem exists_mem_ofEntries (h : entry ∈ entries) :
    ∃ value, (entry.1, value) ∈ ofEntries entries := by
  have hlookup := lookup_ofEntries entries entry.1
  cases hfound : (ofEntries entries).lookup entry.1 with
  | none =>
    rw [hfound] at hlookup
    have hother := List.lookup_eq_none_iff.mp hlookup.symm entry (List.mem_reverse.mpr h)
    exact absurd rfl (bne_iff_ne.mp hother)
  | some value =>
    have hleft : (ofEntries entries).lookup (entry.1, value).1 = some (entry.1, value).2 := hfound
    exact ⟨value, (lookup_eq_some_iff_mem (nodup_keys_ofEntries entries)).mp hleft⟩

/-- A field that some item sets is left exactly if no later item sets its key again. -/
theorem mem_ofEntries_filterMap_iff {β : Type} {field? : β → Option (κ × α)} {items : List β} :
    entry ∈ ofEntries (items.filterMap field?) ↔ ∃ before item after,
      items = before ++ item :: after ∧ field? item = some entry ∧
        ∀ other ∈ after, ∀ found ∈ field? other, found.1 ≠ entry.1 := by
  rw [mem_ofEntries_iff]
  constructor
  · rintro ⟨before, after, hfields, hafter⟩
    obtain ⟨first, second, rfl, -, hsecond⟩ := List.filterMap_eq_append_iff.mp hfields
    obtain ⟨skipped, item, others, rfl, -, hitem, hothers⟩ := List.filterMap_eq_cons_iff.mp hsecond
    refine ⟨first ++ skipped, item, others, by simp, hitem, fun other hother found hfound => ?_⟩
    exact hafter found (hothers ▸ List.mem_filterMap.mpr ⟨other, hother, hfound⟩)
  · rintro ⟨before, item, after, rfl, hitem, hafter⟩
    refine ⟨before.filterMap field?, after.filterMap field?, ?_, fun found hfound => ?_⟩
    · rw [List.filterMap_append, List.filterMap_cons_some hitem]
    · obtain ⟨other, hother, hfound⟩ := List.mem_filterMap.mp hfound
      exact hafter other hother found hfound

/-- Fields with different keys are left as they are. -/
theorem ofEntries_of_nodup (h : (entries.map Prod.fst).Nodup) : ofEntries entries = entries := by
  suffices hfold : ∀ fields : List (κ × α),
      ((fields ++ entries).map Prod.fst).Nodup →
        entries.foldl (fun fields entry => setField entry.1 entry.2 fields) fields =
          fields ++ entries from hfold [] h
  clear h
  induction entries with
  | nil => exact fun fields _ => (List.append_nil fields).symm
  | cons first rest ih =>
    intro fields h
    have hnew : first.1 ∉ fields.map Prod.fst := by
      rw [List.map_append, List.map_cons] at h
      intro hmem
      exact (List.nodup_append.mp h).2.2 _ hmem _ List.mem_cons_self rfl
    rw [List.foldl_cons, setField_of_not_mem hnew, ih (fields ++ [first]) (by simpa using h)]
    simp

end Restack.Value
