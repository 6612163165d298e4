import Mathlib.Data.List.Basic
import Restack.Proofs.Intake.Parts

/-!
# Clean paths

A clean path has no pair of dots, is written with slashes only, has no empty part and does not begin
with a slash. Whatever a path is, cleaning gives such a path, and nothing but dots and slashes gets
lost on the way. Taking pairs of dots out cannot bring others about: of each run of dots, one is
left or none, and what stands around the run is no dot.
-/

namespace Restack.Intake

/-- A path that leads nowhere but down from the place that it is used in. -/
structure IsClean (path : List Char) : Prop where
  no_dots : ¬['.', '.'] <:+: path
  no_backslash : '\\' ∉ path
  no_empty_part : ¬['/', '/'] <:+: path
  no_front_slash : ¬['/'] <+: path

section Pairs

variable {c d : Char} {s : List Char}

/-- A pair stands at the front or further behind. -/
theorem pair_infix_cons : [c, c] <:+: d :: s ↔ c = d ∧ s.head? = some c ∨ [c, c] <:+: s := by
  rw [List.infix_cons_iff, List.cons_prefix_cons, List.singleton_prefix_iff_head?_eq_some]

/-- A first character that is no dot stays when pairs of dots are dropped. -/
theorem head?_dropDotPairs (h : s.head? ≠ some '.') : (dropDotPairs s).head? = s.head? := by
  fun_cases dropDotPairs s with
  | case1 rest => exact absurd rfl h
  | case2 c rest => rfl
  | case3 => rfl

/-- The first character stays when slashes are joined. -/
theorem head?_squeezeSlashes (s : List Char) : (squeezeSlashes s).head? = s.head? := by
  induction s with
  | nil => rfl
  | cons c rest ih =>
    rw [squeezeSlashes]
    split
    · rename_i hslash
      rw [Bool.and_eq_true, beq_iff_eq, beq_iff_eq] at hslash
      rw [ih, hslash.2, List.head?_cons, hslash.1]
    · rfl

/-- No dots meet where a pair of dots has been taken out. -/
theorem dots_not_infix_dropDotPairs (s : List Char) : ¬['.', '.'] <:+: dropDotPairs s := by
  fun_induction dropDotPairs s with
  | case1 rest ih => exact ih
  | case2 c rest hpair ih =>
    rw [pair_infix_cons, not_or]
    refine ⟨?_, ih⟩
    rintro ⟨rfl, hhead⟩
    by_cases hrest : rest.head? = some '.'
    · obtain ⟨more, rfl⟩ := List.head?_eq_some_iff.mp hrest
      exact hpair more rfl rfl
    · exact hrest ((head?_dropDotPairs hrest).symm.trans hhead)
  | case3 => simp

/-- Where there are no pairs of dots none are dropped. -/
theorem dropDotPairs_of_not_infix (h : ¬['.', '.'] <:+: s) : dropDotPairs s = s := by
  fun_induction dropDotPairs s with
  | case1 rest => exact absurd (List.infix_append [] ['.', '.'] rest) h
  | case2 c rest _ ih =>
    rw [ih fun hrest => h (List.infix_cons hrest)]
  | case3 => rfl

/-- Turning backslashes makes no dots. -/
theorem slashed_eq_dot_iff : slashed c = '.' ↔ c = '.' := by
  unfold slashed
  split
  · rename_i hc
    rw [beq_iff_eq] at hc
    subst hc
    decide
  · exact Iff.rfl

/-- Turning backslashes makes no pairs of dots, and undoes none. -/
theorem dots_infix_map_slashed : ['.', '.'] <:+: s.map slashed ↔ ['.', '.'] <:+: s := by
  induction s with
  | nil => exact Iff.rfl
  | cons c rest ih =>
    simp only [List.map_cons, pair_infix_cons, ih, List.head?_map, Option.map_eq_some_iff,
      slashed_eq_dot_iff, exists_eq_right, eq_comm (a := '.')]

/-- Squeezing slashes brings no pair about. -/
theorem pair_infix_of_squeezeSlashes (h : [c, c] <:+: squeezeSlashes s) : [c, c] <:+: s := by
  induction s with
  | nil => exact h
  | cons d rest ih =>
    rw [squeezeSlashes] at h
    split at h
    · exact List.infix_cons (ih h)
    · rw [pair_infix_cons, head?_squeezeSlashes] at h
      exact pair_infix_cons.mpr (h.imp_right ih)

/-- No two slashes are left next to each other. -/
theorem slashes_not_infix_squeezeSlashes (s : List Char) : ¬['/', '/'] <:+: squeezeSlashes s := by
  induction s with
  | nil => simp [squeezeSlashes]
  | cons c rest ih =>
    rw [squeezeSlashes]
    split
    · exact ih
    · rename_i hkept
      rw [pair_infix_cons, head?_squeezeSlashes, not_or]
      refine ⟨?_, ih⟩
      rintro ⟨rfl, hhead⟩
      exact hkept (by rw [hhead]; rfl)

/-- Slashes that stand alone are left as they are. -/
theorem squeezeSlashes_of_not_infix (h : ¬['/', '/'] <:+: s) : squeezeSlashes s = s := by
  induction s with
  | nil => rfl
  | cons c rest ih =>
    rw [pair_infix_cons, not_or] at h
    rw [squeezeSlashes, ih h.2, if_neg]
    rintro hslash
    rw [Bool.and_eq_true, beq_iff_eq, beq_iff_eq] at hslash
    exact h.1 ⟨hslash.1.symm, hslash.2⟩

end Pairs

/-- A path that has been cleaned is clean. -/
theorem isClean_cleanPath (path : List Char) : IsClean (cleanPath path) where
  no_dots h :=
    dots_not_infix_dropDotPairs path <| dots_infix_map_slashed.mp <|
      pair_infix_of_squeezeSlashes <| h.trans (List.dropWhile_suffix _).isInfix
  no_backslash := backslash_not_mem_cleanPath path
  no_empty_part h :=
    slashes_not_infix_squeezeSlashes (plainName path) <| h.trans (List.dropWhile_suffix _).isInfix
  no_front_slash h := by
    rw [List.singleton_prefix_iff_head?_eq_some] at h
    have hfront := List.head?_dropWhile_not (· == '/') (squeezeSlashes (plainName path))
    rw [cleanPath_eq, tidied] at h
    rw [h] at hfront
    cases hfront

/-- A clean path stays as it is. -/
theorem IsClean.cleanPath_eq {path : List Char} (h : IsClean path) : cleanPath path = path := by
  rw [cleanPath, dropDotPairs_of_not_infix h.no_dots, map_slashed_of_not_mem h.no_backslash,
    squeezeSlashes_of_not_infix h.no_empty_part, List.dropWhile_eq_self_iff]
  intro hpos hslash
  refine h.no_front_slash ?_
  rw [List.singleton_prefix_iff_head?_eq_some, List.head?_eq_getElem?,
    List.getElem?_eq_getElem hpos, beq_iff_eq.mp hslash]

/-- Whether a character is neither a dot nor a slash of either kind. -/
def isInName (c : Char) : Bool := c != '.' && c != '/' && c != '\\'

section Names

variable (s : List Char)

/-- Slashes are not in names. -/
theorem filter_isInName_cons_slash : ('/' :: s).filter isInName = s.filter isInName := rfl

/-- Dropping pairs of dots drops nothing of names. -/
theorem filter_isInName_dropDotPairs :
    (dropDotPairs s).filter isInName = s.filter isInName := by
  fun_induction dropDotPairs s with
  | case1 rest ih => exact ih
  | case2 c rest _ ih => rw [List.filter_cons, List.filter_cons, ih]
  | case3 => rfl

/-- Turning backslashes changes nothing of names. -/
theorem filter_isInName_map_slashed : (s.map slashed).filter isInName = s.filter isInName := by
  induction s with
  | nil => rfl
  | cons c rest ih =>
    rw [List.map_cons, List.filter_cons, List.filter_cons, ih]
    by_cases hc : c = '\\'
    · subst hc
      rfl
    · have hkept : slashed c = c := if_neg (by simpa using hc)
      rw [hkept]

/-- Joining slashes drops nothing of names. -/
theorem filter_isInName_squeezeSlashes :
    (squeezeSlashes s).filter isInName = s.filter isInName := by
  induction s with
  | nil => rfl
  | cons c rest ih =>
    rw [squeezeSlashes]
    split
    · rename_i hslash
      rw [Bool.and_eq_true, beq_iff_eq] at hslash
      rw [ih, hslash.1, filter_isInName_cons_slash]
    · rw [List.filter_cons, List.filter_cons, ih]

/-- Dropping slashes in front drops nothing of names. -/
theorem filter_isInName_dropWhile :
    (s.dropWhile (· == '/')).filter isInName = s.filter isInName := by
  induction s with
  | nil => rfl
  | cons c rest ih =>
    rw [List.dropWhile_cons]
    split
    · rename_i hslash
      rw [ih, beq_iff_eq.mp hslash, filter_isInName_cons_slash]
    · rfl

end Names

/-- What is neither a dot nor a slash stays when a path is cleaned. -/
theorem filter_isInName_cleanPath (path : List Char) :
    (cleanPath path).filter isInName = path.filter isInName := by
  rw [cleanPath, filter_isInName_dropWhile, filter_isInName_squeezeSlashes,
    filter_isInName_map_slashed, filter_isInName_dropDotPairs]

/-- **Cleaning makes every path clean, and once is enough.** It gives a clean path for every text,
so that a second time changes nothing; the paths that it leaves alone are exactly the clean ones;
and it takes nothing away but dots and slashes. -/
theorem cleanPath_clean (path : List Char) :
    IsClean (cleanPath path) ∧ cleanPath (cleanPath path) = cleanPath path ∧
      (cleanPath path = path ↔ IsClean path) ∧
      (cleanPath path).filter isInName = path.filter isInName := by
  have hclean := isClean_cleanPath path
  refine ⟨hclean, hclean.cleanPath_eq, ⟨fun h => ?_, IsClean.cleanPath_eq⟩,
    filter_isInName_cleanPath path⟩
  rw [← h]
  exact hclean

/-- Of five dots one is left, and of three slashes of both kinds one. -/
example : String.ofList (cleanPath "/.....\\\\/etc".toList) = "./etc" := by decide

end Restack.Intake
