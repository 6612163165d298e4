import Mathlib.Logic.Relation
import Restack.Proofs.Intake.CleanPaths
import Restack.Proofs.Intake.Selection

/-!
# Names that come to one path

Cleaning takes several names to one path. Each of its steps leaves something out or rewrites it: a
pair of dots, a backslash, one of two slashes, a slash in front. Two names come to the same path
exactly if such steps, forwards and backwards, lead from the one to the other, and so the files of
an archive have paths of their own exactly if no two of its names are related in this way.
-/

namespace Restack.Intake

open Restack.Text Restack.Archive

/-- One step of cleaning, at any place where it can be made. -/
inductive Simplifies : List Char → List Char → Prop where
  /-- A pair of dots is left out. -/
  | dots (front rest : List Char) : Simplifies (front ++ '.' :: '.' :: rest) (front ++ rest)
  /-- A backslash becomes a slash. -/
  | backslash (front rest : List Char) : Simplifies (front ++ '\\' :: rest) (front ++ '/' :: rest)
  /-- One of two slashes is left out. -/
  | slashes (front rest : List Char) :
    Simplifies (front ++ '/' :: '/' :: rest) (front ++ '/' :: rest)
  /-- A slash in front is left out. -/
  | start (rest : List Char) : Simplifies ('/' :: rest) rest

/-- Two names are spellings of one path: steps of cleaning, forwards and backwards, lead from one to
the other. -/
def SpellSamePath : List Char → List Char → Prop := Relation.EqvGen Simplifies

namespace SpellSamePath

variable {a b c : List Char}

/-- Every name spells the same path as itself. -/
theorem refl (a : List Char) : SpellSamePath a a := Relation.EqvGen.refl a

/-- Names spell the same path both ways round. -/
theorem symm (h : SpellSamePath a b) : SpellSamePath b a := Relation.EqvGen.symm _ _ h

/-- Names that spell the same path as a third spell the same path. -/
theorem trans (hab : SpellSamePath a b) (hbc : SpellSamePath b c) : SpellSamePath a c :=
  Relation.EqvGen.trans _ _ _ hab hbc

/-- A name spells the same path as one that it simplifies to. -/
theorem of_simplifies (h : Simplifies a b) : SpellSamePath a b := Relation.EqvGen.rel _ _ h

end SpellSamePath

section Dots

variable {c : Char} {s : List Char}

/-- A character stays unless it is the first of two dots. -/
theorem dropDotPairs_cons (h : c ≠ '.' ∨ s.head? ≠ some '.') :
    dropDotPairs (c :: s) = c :: dropDotPairs s := by
  refine dropDotPairs.eq_2 c s fun rest hc hs => ?_
  rcases h with hdot | hhead
  · exact hdot hc
  · exact hhead (by rw [hs, List.head?_cons])

/-- A pair of dots may be taken out first, wherever it stands. -/
theorem dropDotPairs_append_dots (front rest : List Char) :
    dropDotPairs (front ++ '.' :: '.' :: rest) = dropDotPairs (front ++ rest) := by
  fun_induction dropDotPairs front with
  | case1 more ih => exact ih
  | case2 c more hpair ih =>
    cases more with
    | nil =>
      by_cases hc : c = '.'
      · subst hc
        rfl
      · rw [List.cons_append, List.cons_append, List.nil_append, List.nil_append,
          dropDotPairs_cons (Or.inl hc), dropDotPairs_cons (Or.inl hc)]
        rfl
    | cons d others =>
      have hfirst : ∀ tail : List Char, c ≠ '.' ∨ (d :: others ++ tail).head? ≠ some '.' := by
        intro tail
        by_cases hc : c = '.'
        · right
          rintro hd
          obtain rfl : d = '.' := by simpa using hd
          exact hpair others hc rfl
        · exact Or.inl hc
      calc
        dropDotPairs (c :: (d :: others ++ '.' :: '.' :: rest)) =
            c :: dropDotPairs (d :: others ++ '.' :: '.' :: rest) := dropDotPairs_cons (hfirst _)
        _ = c :: dropDotPairs (d :: others ++ rest) := by rw [ih]
        _ = dropDotPairs (c :: (d :: others ++ rest)) := (dropDotPairs_cons (hfirst _)).symm
  | case3 => rfl

/-- Dots on both sides of another character are paired apart. -/
theorem dropDotPairs_append_cons (hc : c ≠ '.') (front rest : List Char) :
    dropDotPairs (front ++ c :: rest) = dropDotPairs front ++ c :: dropDotPairs rest := by
  fun_induction dropDotPairs front with
  | case1 more ih => exact ih
  | case2 d more hpair ih =>
    have hfirst : d ≠ '.' ∨ (more ++ c :: rest).head? ≠ some '.' := by
      by_cases hd : d = '.'
      · right
        cases more with
        | nil => simpa using hc
        | cons e others =>
          rintro he
          obtain rfl : e = '.' := by simpa using he
          exact hpair others hd rfl
      · exact Or.inl hd
    rw [List.cons_append, dropDotPairs_cons hfirst, ih, List.cons_append]
  | case3 => exact dropDotPairs_cons (Or.inl hc)

/-- Of two slashes one may be left out first, wherever they stand. -/
theorem squeezeSlashes_append_slashes (front rest : List Char) :
    squeezeSlashes (front ++ '/' :: '/' :: rest) = squeezeSlashes (front ++ '/' :: rest) := by
  induction front with
  | nil => rw [List.nil_append, squeezeSlashes]; rfl
  | cons c more ih =>
    have hhead : (more ++ '/' :: '/' :: rest).head? = (more ++ '/' :: rest).head? := by
      cases more <;> rfl
    rw [List.cons_append, List.cons_append, squeezeSlashes, squeezeSlashes, hhead, ih]

end Dots

/-- A step of cleaning changes nothing about the clean path. -/
theorem Simplifies.same_cleanPath {a b : List Char} (h : Simplifies a b) :
    cleanPath a = cleanPath b := by
  cases h with
  | dots front rest => rw [cleanPath, dropDotPairs_append_dots, cleanPath]
  | backslash front rest =>
    have hplain : (dropDotPairs (front ++ '\\' :: rest)).map slashed =
        (dropDotPairs (front ++ '/' :: rest)).map slashed := by
      rw [dropDotPairs_append_cons (by decide), dropDotPairs_append_cons (by decide),
        List.map_append, List.map_append]
      rfl
    rw [cleanPath, hplain, cleanPath]
  | slashes front rest =>
    have hplain : ∀ tail : List Char, plainName (front ++ '/' :: tail) =
        plainName front ++ '/' :: plainName tail := by
      intro tail
      rw [plainName, dropDotPairs_append_cons (by decide), List.map_append]
      rfl
    have hslash : plainName ('/' :: rest) = '/' :: plainName rest := rfl
    rw [cleanPath_eq, cleanPath_eq, hplain, hplain, hslash, tidied, squeezeSlashes_append_slashes,
      tidied]
  | start =>
    have hplain : plainName ('/' :: b) = '/' :: plainName b := rfl
    rw [cleanPath_eq, cleanPath_eq, hplain, tidied_slash_cons]

namespace SpellSamePath

/-- Each pair of dots is left out by a step. -/
theorem append_dropDotPairs (front s : List Char) :
    SpellSamePath (front ++ s) (front ++ dropDotPairs s) := by
  fun_induction dropDotPairs s generalizing front with
  | case1 rest ih => exact trans (of_simplifies (.dots front rest)) (ih front)
  | case2 c rest _ ih =>
    have hrest := ih (front ++ [c])
    rwa [List.append_assoc, List.append_assoc] at hrest
  | case3 => exact refl _

/-- Each backslash is rewritten by a step. -/
theorem append_map_slashed (front s : List Char) :
    SpellSamePath (front ++ s) (front ++ s.map slashed) := by
  induction s generalizing front with
  | nil => exact refl _
  | cons c rest ih =>
    have hrest := ih (front ++ [slashed c])
    rw [List.append_assoc, List.append_assoc] at hrest
    refine trans ?_ hrest
    by_cases hc : c = '\\'
    · subst hc
      exact of_simplifies (.backslash front rest)
    · have hkept : slashed c = c := if_neg (by simpa using hc)
      rw [hkept]
      exact refl _

/-- Each of several slashes but one is left out by a step. -/
theorem append_squeezeSlashes (front s : List Char) :
    SpellSamePath (front ++ s) (front ++ squeezeSlashes s) := by
  induction s generalizing front with
  | nil => exact refl _
  | cons c rest ih =>
    rw [squeezeSlashes]
    split
    · rename_i hslash
      rw [Bool.and_eq_true, beq_iff_eq, beq_iff_eq] at hslash
      obtain ⟨rfl, hhead⟩ := hslash
      obtain ⟨more, rfl⟩ := List.head?_eq_some_iff.mp hhead
      exact trans (of_simplifies (.slashes front more)) (ih front)
    · have hrest := ih (front ++ [c])
      rwa [List.append_assoc, List.append_assoc] at hrest

/-- Slashes in front do not matter to the path. -/
theorem dropWhile_slashes (s : List Char) : SpellSamePath s (s.dropWhile (· == '/')) := by
  induction s with
  | nil => exact refl _
  | cons c rest ih =>
    rw [List.dropWhile_cons]
    split
    · rename_i hslash
      obtain rfl : c = '/' := beq_iff_eq.mp hslash
      exact trans (of_simplifies (.start rest)) ih
    · exact refl _

/-- A name is a spelling of its clean path. -/
theorem to_cleanPath (name : List Char) : SpellSamePath name (cleanPath name) :=
  trans (append_dropDotPairs [] name) <|
    trans (append_map_slashed [] _) <|
      trans (append_squeezeSlashes [] _) (dropWhile_slashes _)

end SpellSamePath

/-- Two names come to one path exactly if they are spellings of one path. -/
theorem cleanPath_eq_iff {a b : List Char} : cleanPath a = cleanPath b ↔ SpellSamePath a b := by
  constructor
  · intro h
    have hb := SpellSamePath.to_cleanPath b
    rw [← h] at hb
    exact (SpellSamePath.to_cleanPath a).trans hb.symm
  · intro h
    induction h with
    | rel a b hstep => exact hstep.same_cleanPath
    | refl a => rfl
    | symm a b _ ih => exact ih.symm
    | trans a b c _ _ ihab ihbc => exact ihab.trans ihbc

/-- The entries of an archive that become files: those that count and have something left of their
names. -/
def entriesTaken (settings : Settings) (entries : List Entry) : List Entry :=
  (entries.filter (counts settings)).filter fun entry => !(cleanPath entry.name.toList).isEmpty

/-- The file that an entry becomes if something is left of its name. -/
theorem fileOf?_of_ne_nil {entry : Entry} (h : cleanPath entry.name.toList ≠ []) :
    fileOf? entry = some (.ofOctets (String.ofList (cleanPath entry.name.toList)) entry.data) := by
  have hkept : (cleanPath entry.name.toList).isEmpty = false := by simpa using h
  simp only [fileOf?, hkept, Bool.false_eq_true, if_false]

/-- The path of the file that an entry becomes. -/
theorem path_of_fileOf? {entry : Entry} {file : ProjectFile} (h : fileOf? entry = some file) :
    cleanPath entry.name.toList ≠ [] ∧ file.path = String.ofList (cleanPath entry.name.toList) := by
  by_cases hname : cleanPath entry.name.toList = []
  · simp [fileOf?, hname] at h
  · rw [fileOf?_of_ne_nil hname, Option.some_inj] at h
    exact ⟨hname, by rw [← h, ProjectFile.ofOctets]⟩

/-- Two entries become files with different paths exactly if their names are not spellings of one
path. -/
theorem paths_ne_iff (first second : Entry) :
    (∀ file, fileOf? first = some file → ∀ other, fileOf? second = some other →
        file.path ≠ other.path) ↔
      (cleanPath first.name.toList ≠ [] → cleanPath second.name.toList ≠ [] →
        ¬SpellSamePath first.name.toList second.name.toList) := by
  constructor
  · intro h hfirst hsecond hsame
    refine h _ (fileOf?_of_ne_nil hfirst) _ (fileOf?_of_ne_nil hsecond) ?_
    exact congrArg String.ofList (cleanPath_eq_iff.mpr hsame)
  · intro h file hfile other hother hpath
    obtain ⟨hfirst, hfilePath⟩ := path_of_fileOf? hfile
    obtain ⟨hsecond, hotherPath⟩ := path_of_fileOf? hother
    rw [hfilePath, hotherPath, String.ofList_inj] at hpath
    exact h hfirst hsecond (cleanPath_eq_iff.mp hpath)

/-- **Files of an archive have paths of their own exactly if no two of the entries that become files
have names that are spellings of one path.** This is so, in particular, if the names of the entries
are distinct and clean. -/
theorem taken_paths_nodup_iff {settings : Settings} {entries : List Entry}
    {files : List ProjectFile} (h : filesOfArchive settings entries = .ok files) :
    ((files.map (·.path)).Nodup ↔ (entriesTaken settings entries).Pairwise fun first second =>
      ¬SpellSamePath first.name.toList second.name.toList) ∧
    ((entries.map (·.name)).Nodup →
      (∀ entry ∈ entriesTaken settings entries, IsClean entry.name.toList) →
        (files.map (·.path)).Nodup) := by
  have hiff : (files.map (·.path)).Nodup ↔ (entriesTaken settings entries).Pairwise
      fun first second => ¬SpellSamePath first.name.toList second.name.toList := by
    rw [filesOfArchive_eq] at h
    split at h
    · cases h
    · cases h
      rw [List.Nodup, List.pairwise_map, List.pairwise_filterMap, entriesTaken]
      generalize entries.filter (counts settings) = counted
      rw [List.pairwise_filter]
      simp only [paths_ne_iff, Bool.not_eq_true', List.isEmpty_eq_false_iff]
  refine ⟨hiff, fun hnames hclean => hiff.mpr ?_⟩
  have hsublist : (entriesTaken settings entries).Sublist entries :=
    List.filter_sublist.trans List.filter_sublist
  have hdistinct : (entriesTaken settings entries).Pairwise fun first second =>
      first.name ≠ second.name := (List.pairwise_map.mp hnames).sublist hsublist
  refine hdistinct.imp_of_mem fun {first second} hfirst hsecond hne hsame => hne ?_
  -- A clean name is its own clean path, so that two of them cannot come to the same one.
  have hpaths := cleanPath_eq_iff.mpr hsame
  rw [(hclean first hfirst).cleanPath_eq, (hclean second hsecond).cleanPath_eq] at hpaths
  exact String.toList_inj.mp hpaths

/-- An archive with two pages whose names differ by a slash. -/
def doubledArchive : List Entry :=
  [⟨"src/App.jsx", octetsOfText "<a/>"⟩, ⟨"src//App.jsx", octetsOfText "<b/>"⟩]

/-- The two pages do not have paths of their own: one slash may be left out. -/
theorem taken_paths_nodup_doubled :
    ∃ files, filesOfArchive .standard doubledArchive = .ok files ∧
      ¬(files.map (·.path)).Nodup := by
  obtain ⟨files, hfiles⟩ : ∃ files, filesOfArchive .standard doubledArchive = .ok files := ⟨_, rfl⟩
  refine ⟨files, hfiles, fun hnodup => ?_⟩
  have hpairwise := (taken_paths_nodup_iff hfiles).1.mp hnodup
  have htaken : entriesTaken .standard doubledArchive = doubledArchive := by
    rw [entriesTaken, List.filter_filter, List.filter_eq_self]
    decide +kernel
  rw [htaken] at hpairwise
  have happart := List.rel_of_pairwise_cons hpairwise (List.mem_singleton.mpr rfl)
  have hstep : Simplifies "src//App.jsx".toList "src/App.jsx".toList :=
    .slashes "src".toList "App.jsx".toList
  exact happart (SpellSamePath.of_simplifies hstep).symm

/-- Entries with distinct names should become files with distinct paths, and yet there are two with
one path. -/
theorem distinct_names_share_path :
    (doubledArchive.map (·.name)).Nodup ∧
      ∃ files, filesOfArchive .standard doubledArchive = .ok files ∧
        files.map (·.path) = ["src/App.jsx", "src/App.jsx"] ∧ ¬(files.map (·.path)).Nodup := by
  have hfiles : filesOfArchive .standard doubledArchive =
      .ok [⟨"src/App.jsx", "<a/>", 4, "javascript"⟩,
        ⟨"src/App.jsx", "<b/>", 4, "javascript"⟩] :=
    rfl
  refine ⟨by decide, _, hfiles, rfl, ?_⟩
  decide

end Restack.Intake
