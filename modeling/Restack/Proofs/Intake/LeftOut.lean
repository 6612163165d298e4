import Restack.Proofs.Intake.CleanPaths
import Restack.Proofs.Intake.Selection

/-!
# Files that get in although they are left out

The rules look at the name of an entry as it stands in the archive, and the file is kept under its
clean path. Tidying a path changes nothing for the rules, but taking pairs of dots out of it does,
and so does a backslash at its end. Such entries are the only ones that get in under a path that
should have been left out.
-/

namespace Restack.Intake

open Restack.Text Restack.Archive

/-- A text ends with a character exactly if that is its last one. -/
theorem singleton_suffix_concat {front : List Char} {c d : Char} : [d] <:+ front ++ [c] ↔ d = c :=
  ⟨fun ⟨_, h⟩ => (List.cons.inj (List.append_inj' h rfl).2).1, fun h => ⟨front, by rw [h]⟩⟩

/-- A path ends with a slash if there is something of it, but no base name. -/
theorem slash_suffix_iff (path : List Char) : ['/'] <:+ path ↔ path ≠ [] ∧ baseName path = [] := by
  rcases path.eq_nil_or_concat with rfl | ⟨front, c, rfl⟩
  · simp
  · rw [List.concat_eq_append, singleton_suffix_concat]
    by_cases hc : c = '/'
    · subst hc
      simp [baseName]
    · simp [baseName, hc, Ne.symm hc]

/-- The base name stays when a path is tidied. -/
theorem baseName_tidied (path : List Char) : baseName (tidied path) = baseName path := by
  have hlast := getLast?_splitOn (tidied path)
  rw [splitOn_tidied, List.getLast?_concat, Option.some_inj] at hlast
  exact hlast.symm

/-- A rule fits a path exactly if it fits the tidied one: no folder has an empty name. -/
theorem SkipRule.fits_tidied {rule : SkipRule} (hrule : rule ∈ skipRules) {path : List Char}
    (hpath : '\\' ∉ path) :
    rule.Fits (skipParts (tidied path)) ↔ rule.Fits (skipParts path) := by
  have htidied : '\\' ∉ tidied path := fun h => hpath ((tidied_sublist path).mem h)
  have hparts : skipParts (tidied path) =
      ((path.splitOn '/').dropLast.filter (· ≠ [])).map lower ++ [lower (baseName path)] := by
    rw [skipParts, map_slashed_of_not_mem htidied, splitOn_tidied, List.map_append, List.map_cons,
      List.map_nil]
  have hall : skipParts path =
      (path.splitOn '/').dropLast.map lower ++ [lower (baseName path)] := by
    rw [skipParts, map_slashed_of_not_mem hpath, splitOn_eq_concat, List.map_append,
      List.dropLast_concat, List.map_singleton]
  rw [hparts, hall]
  cases rule with
  | folder name =>
    simp only [Fits, List.dropLast_concat, List.mem_map, List.mem_filter, decide_eq_true_eq]
    constructor
    · rintro ⟨part, ⟨hpart, -⟩, hname⟩
      exact ⟨part, hpart, hname⟩
    · rintro ⟨part, hpart, hname⟩
      refine ⟨part, ⟨hpart, ?_⟩, hname⟩
      rintro rfl
      exact (name_of_folder_mem hrule).2 hname.symm
  | named name => simp only [Fits, List.getLast?_concat]
  | pattern text => simp only [Fits, List.getLast?_concat]

/-- Whether a file is left out does not change when its path is tidied, if anything is left of
it. -/
theorem isSkipped_tidied {path : List Char} (hpath : '\\' ∉ path) (hne : tidied path ≠ []) :
    isSkipped (tidied path) = isSkipped path := by
  have hnil : path ≠ [] := by
    rintro rfl
    exact hne rfl
  rw [Bool.eq_iff_iff, isSkipped_iff, isSkipped_iff, slash_suffix_iff, slash_suffix_iff,
    baseName_tidied]
  refine or_congr (and_congr_left' (iff_of_true hne hnil)) ?_
  exact exists_congr fun rule => and_congr_right fun hrule => SkipRule.fits_tidied hrule hpath

/-- A clean path is left out exactly if the name without pairs of dots is. -/
theorem isSkipped_cleanPath {name : List Char} (hne : cleanPath name ≠ []) :
    isSkipped (cleanPath name) = isSkipped (plainName name) := by
  rw [cleanPath_eq] at hne ⊢
  exact isSkipped_tidied (backslash_not_mem_map_slashed _) hne

/-- A name that is not left out, has no pair of dots and does not end with a backslash is not left
out when it is written with slashes. -/
theorem isSkipped_plainName {name : List Char} (hskipped : isSkipped name = false)
    (hdots : ¬['.', '.'] <:+: name) (hend : ¬['\\'] <:+ name) :
    isSkipped (plainName name) = false := by
  rw [← Bool.not_eq_true] at hskipped ⊢
  rw [isSkipped_iff, not_or] at hskipped ⊢
  rw [plainName, dropDotPairs_of_not_infix hdots]
  refine ⟨fun hslash => ?_, ?_⟩
  · rcases name.eq_nil_or_concat with rfl | ⟨front, c, rfl⟩
    · simp at hslash
    · rw [List.concat_eq_append, singleton_suffix_concat] at hskipped hend
      rw [List.concat_eq_append, List.map_append, List.map_singleton, singleton_suffix_concat,
        slashed] at hslash
      split at hslash
      · rename_i hbackslash
        exact hend (beq_iff_eq.mp hbackslash).symm
      · exact hskipped.1 hslash
  · rw [skipParts, map_slashed_slashed]
    exact hskipped.2

/-- Whatever is taken in of an archive comes from an entry that counts and has its clean path. This
path is left out exactly if the name of the entry is without its pairs of dots, which takes a pair
of dots in it or a backslash at its end. There are such files exactly if there are such entries
among those that count. -/
theorem left_out_taken_iff {settings : Settings} {entries : List Entry} {files : List ProjectFile}
    (h : filesOfArchive settings entries = .ok files) :
    (∀ file ∈ files, ∃ entry ∈ entries, counts settings entry = true ∧
      file.path.toList = cleanPath entry.name.toList ∧
      isSkipped file.path.toList = isSkipped (plainName entry.name.toList) ∧
      (isSkipped file.path.toList = true →
        ['.', '.'] <:+: entry.name.toList ∨ ['\\'] <:+ entry.name.toList)) ∧
    ((∃ file ∈ files, isSkipped file.path.toList = true) ↔
      ∃ entry ∈ entries, counts settings entry = true ∧ cleanPath entry.name.toList ≠ [] ∧
        isSkipped (plainName entry.name.toList) = true) := by
  constructor
  · intro file hfile
    obtain ⟨entry, hentry, hcounts, hne, rfl⟩ := (mem_filesOfArchive h file).mp hfile
    have hpath : (ProjectFile.ofOctets (String.ofList (cleanPath entry.name.toList))
        entry.data).path.toList = cleanPath entry.name.toList := String.toList_ofList
    rw [hpath, isSkipped_cleanPath hne]
    refine ⟨entry, hentry, hcounts, rfl, rfl, fun hleft => ?_⟩
    by_contra hplain
    obtain ⟨hdots, hend⟩ := not_or.mp hplain
    rw [isSkipped_plainName (isSkipped_eq_false hcounts) hdots hend] at hleft
    cases hleft
  · constructor
    · rintro ⟨file, hfile, hleft⟩
      obtain ⟨entry, hentry, hcounts, hne, rfl⟩ := (mem_filesOfArchive h file).mp hfile
      refine ⟨entry, hentry, hcounts, hne, ?_⟩
      rw [← isSkipped_cleanPath hne, ← hleft]
      exact congrArg isSkipped String.toList_ofList.symm
    · rintro ⟨entry, hentry, hcounts, hne, hleft⟩
      refine ⟨_, (mem_filesOfArchive h _).mpr ⟨entry, hentry, hcounts, hne, rfl⟩, ?_⟩
      rw [← hleft, ← isSkipped_cleanPath hne]
      exact congrArg isSkipped String.toList_ofList

/-- An archive with one secret, under a name with three dots. -/
def dottedArchive : List Entry := [⟨"shop/...env", octetsOfText "KEY=1"⟩]

/-- The secret of an archive gets in under a path that is left out. -/
theorem left_out_taken_dotted :
    ∃ files, filesOfArchive .standard dottedArchive = .ok files ∧
      ∃ file ∈ files, isSkipped file.path.toList = true := by
  obtain ⟨files, hfiles⟩ : ∃ files, filesOfArchive .standard dottedArchive = .ok files := ⟨_, rfl⟩
  refine ⟨files, hfiles, (left_out_taken_iff hfiles).2.mpr ?_⟩
  exact ⟨⟨"shop/...env", octetsOfText "KEY=1"⟩, List.mem_singleton.mpr rfl, by decide +kernel,
    by decide +kernel, by decide +kernel⟩

/-- No file with settings of a machine should get in, and yet there is one. -/
theorem dotted_name_gets_in :
    filesOfArchive .standard dottedArchive = .ok [⟨"shop/.env", "KEY=1", 5, "unknown"⟩] ∧
      isSkipped "shop/.env".toList = true := by
  constructor
  · rfl
  · decide +kernel

end Restack.Intake
