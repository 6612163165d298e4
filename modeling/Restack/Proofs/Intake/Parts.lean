import Mathlib.Data.List.TakeWhile
import Restack.Intake.Skip
import Restack.Proofs.Text.Case

/-!
# The parts of paths

Whether a file is left out depends on the parts of its path: on the names of the folders that it
stands in, and on its own. A path that has been tidied has the same parts, less the empty ones
before the last.
-/

namespace Restack.Intake

open Restack.Text

/-- Whether a rule fits the parts of a path. The name of a folder is a part before the last one; the
other rules look at the last one. -/
def SkipRule.Fits (parts : List (List Char)) : SkipRule → Prop
  | .folder name => name.toList ∈ parts.dropLast
  | .named name => parts.getLast? = some name.toList
  | .pattern text => ∃ last, parts.getLast? = some last ∧ (Glob.ofText text.toList).fits last = true

/-- The parts of a path as the rules look at them. -/
def skipParts (path : List Char) : List (List Char) :=
  ((path.map slashed).splitOn '/').map lower

/-- No character is turned into a backslash. -/
theorem slashed_ne_backslash (c : Char) : slashed c ≠ '\\' := by
  unfold slashed
  split
  · decide
  · rename_i hc
    simpa using hc

/-- A path in which nothing is a backslash stays as it is when backslashes are replaced. -/
theorem map_slashed_of_not_mem {path : List Char} (h : '\\' ∉ path) : path.map slashed = path := by
  refine (List.map_congr_left fun c hc => ?_).trans (List.map_id path)
  have hne : c ≠ '\\' := fun heq => h (heq ▸ hc)
  simp [slashed, hne]

/-- After backslashes are turned there are none. -/
theorem backslash_not_mem_map_slashed (path : List Char) : '\\' ∉ path.map slashed := fun h => by
  obtain ⟨c, -, hc⟩ := List.mem_map.mp h
  exact slashed_ne_backslash c hc

/-- Turning backslashes once more changes nothing. -/
theorem map_slashed_slashed (path : List Char) :
    (path.map slashed).map slashed = path.map slashed :=
  map_slashed_of_not_mem (backslash_not_mem_map_slashed path)

/-- Nothing in a single part ends the search for the last slash. -/
theorem takeWhile_reverse_part {part : List Char} (h : '/' ∉ part) (rest : List Char) :
    (part.reverse ++ rest).takeWhile (· != '/') = part.reverse ++ rest.takeWhile (· != '/') := by
  refine List.takeWhile_append_of_pos fun c hc => ?_
  have hne : c ≠ '/' := fun heq => h (heq ▸ List.mem_reverse.mp hc)
  simp [hne]

/-- Without slashes a path is its own base name. -/
theorem baseName_of_not_mem {part : List Char} (h : '/' ∉ part) : baseName part = part := by
  have hpart := takeWhile_reverse_part h []
  rw [List.append_nil, List.takeWhile_nil, List.append_nil] at hpart
  rw [baseName, hpart, List.reverse_reverse]

/-- The base name is what stands after the last slash. -/
theorem baseName_append_slash {part : List Char} (h : '/' ∉ part) (front : List Char) :
    baseName (front ++ '/' :: part) = part := by
  rw [baseName, List.reverse_append, List.reverse_cons, List.append_assoc,
    takeWhile_reverse_part h]
  simp

/-- The base name of a path is the last one of its parts. -/
theorem getLast?_splitOn (path : List Char) :
    (path.splitOn '/').getLast? = some (baseName path) := by
  have hne : path.splitOn '/' ≠ [] := List.splitOn_ne_nil _ _
  have hlast : '/' ∉ (path.splitOn '/').getLast hne := not_mem_of_mem_splitOn (List.getLast_mem hne)
  have hpath : ['/'].intercalate (path.splitOn '/') = path := List.intercalate_splitOn _
  rw [← List.dropLast_concat_getLast hne] at hpath
  rw [List.getLast?_eq_some_getLast hne]
  by_cases hinit : (path.splitOn '/').dropLast = []
  · rw [hinit, List.nil_append, List.intercalate_singleton] at hpath
    rw [← baseName_of_not_mem hlast, hpath]
  · rw [intercalate_append hinit (List.cons_ne_nil _ _), List.intercalate_singleton,
      List.append_assoc, List.singleton_append] at hpath
    rw [← baseName_append_slash hlast, hpath]

/-- A path has its folders first, and then its base name. -/
theorem splitOn_eq_concat (path : List Char) :
    path.splitOn '/' = (path.splitOn '/').dropLast ++ [baseName path] := by
  have hne : path.splitOn '/' ≠ [] := List.splitOn_ne_nil _ _
  have hlast := getLast?_splitOn path
  rw [List.getLast?_eq_some_getLast hne, Option.some_inj] at hlast
  rw [← hlast, List.dropLast_concat_getLast]

/-- The names of the folders among the rules are single parts, and not empty. -/
theorem name_of_folder_mem {name : String} (h : .folder name ∈ skipRules) :
    '/' ∉ name.toList ∧ name.toList ≠ [] := by
  have hrules : ∀ rule ∈ skipRules, ∀ name, rule = .folder name →
      '/' ∉ name.toList ∧ name.toList ≠ [] := by
    intro rule hrule name hname
    have hall : skipRules.all fun rule =>
        match rule with
        | .folder name => !name.toList.contains '/' && !name.toList.isEmpty
        | _ => true := by decide +kernel
    have hfolder := List.all_eq_true.mp hall rule hrule
    subst hname
    simpa using hfolder
  exact hrules _ h name rfl

/-- Whether a rule applies to a path can be seen from its parts. -/
theorem SkipRule.applies_iff {rule : SkipRule} (hrule : rule ∈ skipRules) (path : List Char) :
    rule.applies (skipForm path) = true ↔ rule.Fits (skipParts path) := by
  have hparts : (lower (path.map slashed)).splitOn '/' = skipParts path := splitOn_lower _
  have hne : (lower (path.map slashed)).splitOn '/' ≠ [] := List.splitOn_ne_nil _ _
  have hlast : (skipParts path).getLast? = some (baseName (skipForm path)) := by
    rw [← getLast?_splitOn, skipForm, List.splitOn_cons_eq_if_modifyHead,
      if_pos (beq_self_eq_true _), ← hparts, List.getLast?_cons_of_ne_nil hne]
  cases rule with
  | folder name =>
    rw [applies, Fits, occurs_iff_infix, skipForm,
      enclosed_infix_iff (name_of_folder_mem hrule).1, hparts]
  | named name =>
    rw [applies, Fits, hlast]
    simp
  | pattern text =>
    rw [applies, Fits, hlast]
    simp

/-- Whether a file is left out can be seen from the parts of its path, and from its end. -/
theorem isSkipped_iff (path : List Char) :
    isSkipped path = true ↔
      ['/'] <:+ path ∨ ∃ rule ∈ skipRules, rule.Fits (skipParts path) := by
  rw [isSkipped, Bool.or_eq_true, endsWith_iff_suffix, List.any_eq_true]
  refine or_congr_right (exists_congr fun rule => and_congr_right fun hrule => ?_)
  exact SkipRule.applies_iff hrule path

/-- A path with one slash between its parts and none in front. -/
def tidied (path : List Char) : List Char := (squeezeSlashes path).dropWhile (· == '/')

/-- A slash in front is dropped. -/
theorem tidied_slash_cons (path : List Char) : tidied ('/' :: path) = tidied path := by
  unfold tidied
  rw [squeezeSlashes]
  split
  · rfl
  · simp

/-- Behind a slash, the rest of a path is tidied. -/
theorem squeezeSlashes_slash_cons (path : List Char) :
    squeezeSlashes ('/' :: path) = '/' :: tidied path := by
  induction path with
  | nil => rfl
  | cons c rest ih =>
    by_cases hc : c = '/'
    · subst hc
      rw [tidied_slash_cons, ← ih, squeezeSlashes]
      simp
    · unfold tidied
      rw [squeezeSlashes]
      simp [squeezeSlashes, hc]

/-- A single part stays when slashes are squeezed. -/
theorem squeezeSlashes_part_append {part : List Char} (hpart : '/' ∉ part) (rest : List Char) :
    squeezeSlashes (part ++ rest) = part ++ squeezeSlashes rest := by
  induction part with
  | nil => rfl
  | cons c others ih =>
    obtain ⟨hc, hothers⟩ := not_or.mp (mt List.mem_cons.mpr hpart)
    rw [List.cons_append, squeezeSlashes, ih hothers]
    simp [Ne.symm hc]

/-- A path that begins with a single part is tidied behind this part. -/
theorem tidied_part_append {part : List Char} (hpart : '/' ∉ part) (hne : part ≠ [])
    (rest : List Char) : tidied (part ++ rest) = part ++ squeezeSlashes rest := by
  rw [tidied, squeezeSlashes_part_append hpart]
  obtain ⟨c, others, rfl⟩ := List.exists_cons_of_ne_nil hne
  have hc : c ≠ '/' := fun heq => hpart (heq ▸ List.mem_cons_self)
  simp [hc]

/-- A part without slashes is tidy. -/
theorem tidied_of_not_mem {part : List Char} (h : '/' ∉ part) : tidied part = part := by
  by_cases hnil : part = []
  · rw [hnil]
    rfl
  · have hpart := tidied_part_append h hnil []
    rwa [List.append_nil, squeezeSlashes, List.append_nil] at hpart

/-- Tidying a path takes the empty parts before the last one out of it. -/
theorem tidied_intercalate {folders : List (List Char)} {name : List Char}
    (hfolders : ∀ part ∈ folders, '/' ∉ part) (hname : '/' ∉ name) :
    tidied (['/'].intercalate (folders ++ [name])) =
      ['/'].intercalate (folders.filter (· ≠ []) ++ [name]) := by
  induction folders with
  | nil => simpa using tidied_of_not_mem hname
  | cons part rest ih =>
    have hrest := ih fun other hother => hfolders other (List.mem_cons_of_mem _ hother)
    rw [List.cons_append, List.intercalate_cons_of_ne_nil (by simp), List.append_assoc,
      List.singleton_append]
    by_cases hpart : part = []
    · subst hpart
      rw [List.nil_append, tidied_slash_cons, hrest]
      simp
    · rw [tidied_part_append (hfolders part List.mem_cons_self) hpart, squeezeSlashes_slash_cons,
        hrest, List.filter_cons_of_pos (by simpa using hpart), List.cons_append,
        List.intercalate_cons_of_ne_nil (by simp), List.append_assoc, List.singleton_append]

/-- The parts of a tidied path. -/
theorem splitOn_tidied (path : List Char) :
    (tidied path).splitOn '/' =
      (path.splitOn '/').dropLast.filter (· ≠ []) ++ [baseName path] := by
  have hparts := splitOn_eq_concat path
  have hfree : ∀ part ∈ (path.splitOn '/').dropLast, '/' ∉ part := fun part hpart =>
    not_mem_of_mem_splitOn (List.dropLast_subset _ hpart)
  have hname : '/' ∉ baseName path := by
    refine not_mem_of_mem_splitOn (s := path) ?_
    rw [hparts]
    exact List.mem_append_right _ List.mem_cons_self
  have htidied : tidied path =
      ['/'].intercalate ((path.splitOn '/').dropLast.filter (· ≠ []) ++ [baseName path]) := by
    rw [← tidied_intercalate hfree hname, ← hparts, List.intercalate_splitOn]
  rw [htidied]
  refine List.splitOn_intercalate _ (fun part hpart => ?_) (by simp)
  rcases List.mem_append.mp hpart with hpart | hpart
  · exact hfree part (List.mem_filter.mp hpart).1
  · exact List.mem_singleton.mp hpart ▸ hname

/-- Joining slashes only leaves characters out. -/
theorem squeezeSlashes_sublist (path : List Char) : (squeezeSlashes path).Sublist path := by
  induction path with
  | nil => exact List.Sublist.slnil
  | cons c rest ih =>
    rw [squeezeSlashes]
    split
    · exact ih.cons c
    · exact ih.cons_cons c

/-- Tidying only leaves characters out. -/
theorem tidied_sublist (path : List Char) : (tidied path).Sublist path :=
  (List.dropWhile_sublist _).trans (squeezeSlashes_sublist path)

/-- A name without pairs of dots, written with slashes. -/
def plainName (name : List Char) : List Char := (dropDotPairs name).map slashed

/-- A clean path is a plain name that has been tidied. -/
theorem cleanPath_eq (name : List Char) : cleanPath name = tidied (plainName name) := rfl

/-- There are no backslashes in a clean path. -/
theorem backslash_not_mem_cleanPath (name : List Char) : '\\' ∉ cleanPath name := fun h =>
  backslash_not_mem_map_slashed _ ((tidied_sublist (plainName name)).mem h)

end Restack.Intake
