import Restack.Outline.Block

/-!
# Blocks stay within their lines

Wherever a block, a statement or a section begins, its end is found on a line of the same lines, and
not before its beginning. This holds of malformed lines as well: a block that is never closed ends
with the last line.
-/

namespace Restack.Outline

variable {lines : List String} {start : Nat}

/-- The line that closes a block is one of those that are scanned. -/
theorem closingLine_bounds {depth : Depth} {i n : Nat} (h : closingLine depth i lines = some n) :
    i ≤ n ∧ n < i + lines.length := by
  induction lines generalizing depth i with
  | nil => cases h
  | cons line rest ih =>
    rw [closingLine] at h
    rw [List.length_cons]
    split at h
    · have hrest := ih h
      omega
    · cases h
      omega

/-- The first line may be cut off, but there are as many lines as without that. -/
theorem length_linesFrom (lines : List String) (start column : Nat) :
    (linesFrom lines start column).length = lines.length - start := by
  have hdrop : (lines.drop start).length = lines.length - start := List.length_drop
  unfold linesFrom
  split
  · rename_i heq
    rw [← hdrop, heq]
  · rename_i heq
    rw [← hdrop, heq]
    rfl

/-- A block that begins on one of the lines ends on one of them, and not before it begins. -/
theorem blockEnd?_bounds (hstart : start < lines.length) (column : Nat) :
    ∃ last, blockEnd? lines start column = some last ∧ start ≤ last ∧ last < lines.length := by
  unfold blockEnd? closingLine?
  cases hclosing : closingLine .start start (linesFrom lines start column) with
  | some last =>
    have hbounds := closingLine_bounds hclosing
    rw [length_linesFrom] at hbounds
    exact ⟨last, rfl, by omega⟩
  | none =>
    have hne : lines.isEmpty = false := by
      cases lines with
      | nil => simp at hstart
      | cons => rfl
    rw [hne]
    exact ⟨lines.length - 1, rfl, by omega⟩

/-- A block ends on a line of the file, and not before it begins. -/
theorem blockEnd_bounds (hstart : start < lines.length) :
    start ≤ blockEnd lines start ∧ blockEnd lines start < lines.length := by
  obtain ⟨last, hlast, hbounds⟩ := blockEnd?_bounds hstart 0
  unfold blockEnd
  rw [hlast]
  exact hbounds

/-- A block that is never closed. -/
example : blockEnd ["class A \x7b", "  b() \x7b", "  \x7d"] 0 = 2 := by rfl

/-- A component that is declared on one of the lines ends on one of them. -/
theorem componentEnd?_bounds (hstart : start < lines.length) :
    ∃ last, componentEnd? lines start = some last ∧ start ≤ last ∧ last < lines.length := by
  unfold componentEnd?
  rw [List.getElem?_eq_getElem hstart]
  exact blockEnd?_bounds hstart _

/-- The first line that satisfies a test is looked for among the lines that are left. -/
theorem firstLine?_bounds {p : String → Bool} {n : Nat} (h : firstLine? p lines start = some n) :
    start ≤ n ∧ n < lines.length := by
  obtain ⟨i, hi, rfl⟩ := Option.map_eq_some_iff.mp h
  obtain ⟨hlt, -⟩ := List.findIdx?_eq_some_iff_getElem.mp hi
  rw [List.length_drop] at hlt
  omega

/-- The first line that satisfies a test, as against all lines before it. -/
theorem firstLine?_eq_some_iff {p : String → Bool} {n : Nat} :
    firstLine? p lines start = some n ↔
      start ≤ n ∧ (∃ line, lines[n]? = some line ∧ p line = true) ∧
        ∀ j line, start ≤ j → j < n → lines[j]? = some line → p line = false := by
  unfold firstLine?
  rw [Option.map_eq_some_iff]
  constructor
  · rintro ⟨k, hk, rfl⟩
    obtain ⟨hlt, hfound, hbefore⟩ := List.findIdx?_eq_some_iff_getElem.mp hk
    rw [List.length_drop] at hlt
    rw [List.getElem_drop] at hfound
    refine ⟨Nat.le_add_right _ _, ⟨_, List.getElem?_eq_getElem (by omega), hfound⟩, ?_⟩
    intro j line hstart hj hline
    obtain ⟨hlength, rfl⟩ := List.getElem?_eq_some_iff.mp hline
    have hnot := hbefore (j - start) (by omega)
    rw [List.getElem_drop] at hnot
    simpa [Nat.add_sub_cancel' hstart] using hnot
  · rintro ⟨hstart, ⟨line, hline, hp⟩, hbefore⟩
    obtain ⟨hlength, rfl⟩ := List.getElem?_eq_some_iff.mp hline
    refine ⟨n - start, List.findIdx?_eq_some_iff_getElem.mpr ⟨?_, ?_, ?_⟩, by omega⟩
    · rw [List.length_drop]
      omega
    · rw [List.getElem_drop]
      simpa [Nat.add_sub_cancel' hstart] using hp
    · intro j hj
      rw [List.getElem_drop]
      simp [hbefore (start + j) _ (by omega) (by omega) (List.getElem?_eq_getElem (by omega))]

/-- Where no line satisfies the test, the line that the search began on stands in. -/
theorem firstLine?_getD_bounds (p : String → Bool) (hstart : start < lines.length) :
    start ≤ (firstLine? p lines start).getD start ∧
      (firstLine? p lines start).getD start < lines.length := by
  cases hfirst : firstLine? p lines start with
  | none => exact ⟨Nat.le_refl _, hstart⟩
  | some last => exact firstLine?_bounds hfirst

/-- A statement that begins on one of the lines ends on one of them. -/
theorem statementEnd_bounds (hstart : start < lines.length) :
    start ≤ statementEnd lines start ∧ statementEnd lines start < lines.length :=
  firstLine?_getD_bounds _ hstart

/-- A section begins before it ends, and ends on one of the lines. -/
theorem sectionBounds?_bounds {startTag endTag : String} {first last : Nat}
    (h : sectionBounds? lines startTag endTag = some (first, last)) :
    first < last ∧ last < lines.length := by
  unfold sectionBounds? at h
  obtain ⟨first', -, h⟩ := Option.bind_eq_some_iff.mp h
  obtain ⟨last', hlast, h⟩ := Option.bind_eq_some_iff.mp h
  cases h
  have hbounds := firstLine?_bounds hlast
  omega

/-- A slice has the lines from the first to the last that there are. -/
theorem length_slice (lines : List String) (first last : Nat) :
    (slice lines first last).length = min (last - first) (lines.length - first) := by
  rw [slice, List.length_take, List.length_drop]

/-- A line of a slice is a line of all. -/
theorem getElem?_of_slice {first last i : Nat} {line : String}
    (h : (slice lines first last)[i]? = some line) : lines[first + i]? = some line := by
  rw [slice, List.getElem?_take] at h
  split at h
  · rwa [List.getElem?_drop] at h
  · cases h

/-- A slice holds the lines between its bounds. -/
theorem mem_slice_iff {first last : Nat} {line : String} :
    line ∈ slice lines first last ↔ ∃ j, first ≤ j ∧ j < last ∧ lines[j]? = some line := by
  rw [List.mem_iff_getElem?]
  constructor
  · rintro ⟨i, hi⟩
    refine ⟨first + i, Nat.le_add_right _ _, ?_, getElem?_of_slice hi⟩
    obtain ⟨hlt, -⟩ := List.getElem?_eq_some_iff.mp hi
    rw [length_slice] at hlt
    omega
  · rintro ⟨j, hfirst, hlast, hj⟩
    refine ⟨j - first, ?_⟩
    rw [slice, List.getElem?_take, if_pos (by omega), List.getElem?_drop,
      Nat.add_sub_cancel' hfirst, hj]

end Restack.Outline
