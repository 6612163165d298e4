import Restack.Proofs.Outline.Blocks
import Restack.Proofs.Outline.FirstValues

/-!
# Parts stand on the lines they are read from

Parts of a definition are read from some lines of a file, of which a number of lines stand before.
Each of them refers to one of these lines.
-/

namespace Restack.Outline

open Restack.Text

/-- A line is one of those from `first` to `last`. -/
def Within (first last : Nat) (line : Int) : Prop := first ≤ line ∧ line ≤ last

/-- A line is still one of those if there are more of them. -/
theorem Within.mono {first last first' last' : Nat} {line : Int} (h : Within first last line)
    (hfirst : first' ≤ first) (hlast : last ≤ last') : Within first' last' line := by
  unfold Within at *
  omega

/-- A line is one of those that stand behind an offset. -/
theorem within_of_lt {offset count i : Nat} (h : i < count) :
    Within (offset + 1) (offset + count) ↑(offset + i + 1) := by
  unfold Within
  omega

section Lines

variable {α : Type} {lines : List String} {P : α → Prop}

/-- What holds of all that comes of each line holds of all that comes of the lines. -/
theorem forall_mem_flatMap_zipIdx {read : String × Nat → List α}
    (h : ∀ line i, i < lines.length → ∀ a ∈ read (line, i), P a) :
    ∀ a ∈ lines.zipIdx.flatMap read, P a := by
  intro a ha
  obtain ⟨⟨line, i⟩, hmem, hread⟩ := List.mem_flatMap.mp ha
  exact h line i (List.snd_lt_of_mem_zipIdx hmem) a hread

/-- What holds of whatever comes of each line holds of all that comes of the lines. -/
theorem forall_mem_filterMap_zipIdx {read : String × Nat → Option α}
    (h : ∀ line i, i < lines.length → ∀ a, read (line, i) = some a → P a) :
    ∀ a ∈ lines.zipIdx.filterMap read, P a := by
  intro a ha
  obtain ⟨⟨line, i⟩, hmem, hread⟩ := List.mem_filterMap.mp ha
  exact h line i (List.snd_lt_of_mem_zipIdx hmem) a hread

/-- All that a pattern finds stands on the lines that it is looked for on. -/
theorem findOnLines_within {pattern : Pattern} {offset : Nat} {make : Match → Nat → α}
    (lineOf : α → Nat) (hmake : ∀ m n, lineOf (make m n) = n) :
    ∀ a ∈ findOnLines pattern lines offset make,
      Within (offset + 1) (offset + lines.length) (lineOf a) := by
  refine forall_mem_flatMap_zipIdx fun line i hi a ha => ?_
  obtain ⟨m, -, rfl⟩ := List.mem_map.mp ha
  rw [hmake]
  exact within_of_lt hi

end Lines

/-- Items that are kept one by one, unless something like them was found before, are kept as they
are. -/
theorem mem_of_mem_kept {α : Type} {known : List α → α → Bool} {items found : List α} {a : α}
    (h : a ∈ items.foldl (fun found item => if known found item then found else found ++ [item])
      found) : a ∈ found ∨ a ∈ items := by
  induction items generalizing found with
  | nil => exact .inl h
  | cons item rest ih =>
    rcases ih h with hfound | hrest
    · dsimp only at hfound
      split at hfound
      · exact .inl hfound
      · rcases List.mem_append.mp hfound with hold | hnew
        · exact .inl hold
        · exact .inr (List.mem_cons.mpr (.inl (List.mem_singleton.mp hnew)))
    · exact .inr (List.mem_cons_of_mem _ hrest)

section Elements

variable {lines : List String} {offset : Nat}

/-- The line of a variable that stands on some lines is one of them. -/
theorem StateVariable.StandsOn.within {v : StateVariable} (h : v.StandsOn lines offset) :
    Within (offset + 1) (offset + lines.length) v.line := by
  obtain ⟨i, line, hline, hnumber, -⟩ := h
  rw [hnumber]
  exact within_of_lt (List.getElem?_eq_some_iff.mp hline).1

/-- The elements within a component stand on lines of its body. -/
theorem childrenOf_within {self : String} :
    ∀ child ∈ childrenOf lines offset self,
      Within (offset + 1) (offset + lines.length) child.line := by
  intro child hchild
  rcases mem_of_mem_kept hchild with hnone | huse
  · cases hnone
  · refine forall_mem_flatMap_zipIdx (P := fun child : Child =>
      Within (offset + 1) (offset + lines.length) child.line) ?_ child (List.mem_filter.mp huse).1
    intro line i hi a ha
    obtain ⟨m, -, rfl⟩ := List.mem_map.mp ha
    exact within_of_lt hi

/-- The styling of a component stands on lines of its body. -/
theorem stylingOf_within :
    ∀ n ∈ (stylingOf lines offset).lines, Within (offset + 1) (offset + lines.length) n := by
  intro n hn
  obtain ⟨⟨line, i⟩, hmem, rfl⟩ := List.mem_map.mp hn
  exact within_of_lt (List.snd_lt_of_mem_zipIdx (List.mem_filter.mp hmem).1)

/-- The imports that are found on a line stand there. -/
theorem line_of_importsOn {line : String} {number : Int} {found : Import}
    (h : found ∈ importsOn line number) : found.line = number := by
  unfold importsOn at h
  split at h
  · cases h
  · rcases List.mem_append.mp h with hwhole | hnames
    · split at hwhole
      · cases hwhole
      · rw [List.mem_singleton.mp hwhole]
    · split at hnames
      · cases hnames
      · rw [List.mem_singleton.mp hnames]

/-- The exports that are found on a line stand there. -/
theorem line_of_exportsOn {line : String} {number : Int} {found : Export}
    (h : found ∈ exportsOn line number) : found.line = number := by
  unfold exportsOn at h
  split at h
  · obtain ⟨m, -, rfl⟩ := List.mem_map.mp h
    rfl
  · split at h
    · obtain ⟨m, -, rfl⟩ := List.mem_map.mp h
      rfl
    · cases h

/-- Imports stand on the lines that they are found on. -/
theorem importsOf_bounds {offset : Int} :
    ∀ i ∈ importsOf lines offset, offset + 1 ≤ i.line ∧ i.line ≤ offset + lines.length := by
  refine forall_mem_flatMap_zipIdx fun line k hk found hfound => ?_
  rw [line_of_importsOn hfound]
  omega

/-- Exports stand on the lines that they are found on. -/
theorem exportsOf_bounds {offset : Int} :
    ∀ e ∈ exportsOf lines offset, offset + 1 ≤ e.line ∧ e.line ≤ offset + lines.length := by
  refine forall_mem_flatMap_zipIdx fun line k hk found hfound => ?_
  rw [line_of_exportsOn hfound]
  omega

end Elements

end Restack.Outline
