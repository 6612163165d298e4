import Mathlib.Data.List.Basic
import Restack.Proofs.Intake.Parts
import Restack.Proofs.Intake.Selection

/-!
# Folders and archives

A folder and an archive with the same files come to the same, except where a file itself has one of
the names of folders that are never looked into: taking in the folder leaves this file out, and
taking in the archive does not. Below such a folder the rules leave everything out for both, and the
limits do not depend on the order.
-/

namespace Restack.Intake

open Restack.Text Restack.Archive

/-- Two attempts to take files in come to the same: both are refused for what all files take up
together, or both give the same files in some order. -/
inductive Agree (settings : Settings) :
    Except Refusal (List ProjectFile) → Except Refusal (List ProjectFile) → Prop
  /-- Both are refused. -/
  | refused : Agree settings (.error (.totalTooLarge settings.maxTotalSize))
      (.error (.totalTooLarge settings.maxTotalSize))
  /-- Both give the same files. -/
  | taken {first second : List ProjectFile} (h : first.Perm second) :
      Agree settings (.ok first) (.ok second)

/-- Whether an entry itself has one of the names that are never looked into. -/
def hasIgnoredName (entry : Entry) : Bool :=
  ignoredParts.contains (String.ofList (baseName entry.name.toList))

namespace FolderFile

/-- A file stands below a folder: its path has parts, none of them is empty or has a slash in it,
and the path is clean. -/
structure IsPlaced (file : FolderFile) : Prop where
  parts_ne_nil : file.parts ≠ []
  part_ne_empty : ∀ part ∈ file.parts, part ≠ ""
  part_no_slash : ∀ part ∈ file.parts, '/' ∉ part.toList
  clean : cleanPath file.toEntry.name.toList = file.toEntry.name.toList

/-- The name of an entry is the parts of its place with slashes in between. -/
theorem toList_toEntry_name (file : FolderFile) :
    file.toEntry.name.toList = ['/'].intercalate (file.parts.map String.toList) := by
  rw [toEntry, joined, String.toList_ofList, joinWith_eq_intercalate]
  rfl

namespace IsPlaced

variable {file : FolderFile}

/-- The parts of the place of a file are read back from the name of its entry. -/
theorem splitOn_name (h : file.IsPlaced) :
    file.toEntry.name.toList.splitOn '/' = file.parts.map String.toList := by
  rw [toList_toEntry_name]
  refine List.splitOn_intercalate _ (fun part hpart => ?_) (by simpa using h.parts_ne_nil)
  obtain ⟨text, htext, rfl⟩ := List.mem_map.mp hpart
  exact h.part_no_slash text htext

/-- The skip rules look at the parts of the place of a file, in small letters. -/
theorem skipParts_name (h : file.IsPlaced) :
    skipParts file.toEntry.name.toList = file.parts.map fun part => lower part.toList := by
  have hslashes : '\\' ∉ file.toEntry.name.toList := by
    rw [← h.clean]
    exact fun hmem => backslash_not_mem_cleanPath _ hmem
  rw [skipParts, map_slashed_of_not_mem hslashes, h.splitOn_name, List.map_map]
  rfl

/-- The last part of the place of a file is its base name. -/
theorem baseName_name (h : file.IsPlaced) :
    baseName file.toEntry.name.toList = (file.parts.getLast h.parts_ne_nil).toList := by
  have hlast := getLast?_splitOn file.toEntry.name.toList
  rw [h.splitOn_name, List.getLast?_map, List.getLast?_eq_some_getLast h.parts_ne_nil] at hlast
  exact (Option.some_inj.mp hlast).symm

/-- A file that is placed somewhere has a name. -/
theorem name_ne_nil (h : file.IsPlaced) : file.toEntry.name.toList ≠ [] := by
  intro hnil
  have hparts := h.splitOn_name
  rw [hnil, List.splitOn_nil] at hparts
  obtain ⟨part, others, hcons⟩ := List.exists_cons_of_ne_nil h.parts_ne_nil
  rw [hcons, List.map_cons] at hparts
  have hempty : part = "" := String.toList_eq_nil_iff.mp (List.cons.inj hparts).1.symm
  exact h.part_ne_empty part (hcons ▸ List.mem_cons_self) hempty

/-- The file that the entry of a placed file becomes has its path. -/
theorem fileOf?_toEntry (h : file.IsPlaced) :
    fileOf? file.toEntry = some (.ofOctets file.toEntry.name file.toEntry.data) := by
  have hne : file.toEntry.name.toList.isEmpty = false := by
    simpa using h.name_ne_nil
  rw [fileOf?, h.clean, hne, String.ofList_toList]
  rfl

end IsPlaced

end FolderFile

/-- Folders that are never looked into are among those that files are left out for. -/
theorem folder_mem_of_ignored {part : String} (h : part ∈ ignoredParts) :
    .folder part ∈ skipRules ∧ lower part.toList = part.toList := by
  have hall : ∀ part ∈ ignoredParts,
      SkipRule.folder part ∈ skipRules ∧ lower part.toList = part.toList := by decide +kernel
  exact hall part h

namespace FolderFile.IsPlaced

variable {file : FolderFile} {settings : Settings}

/-- Below a folder that is never looked into, everything is left out. -/
theorem isSkipped_of_ignored (h : file.IsPlaced) {part : String}
    (hpart : part ∈ file.parts.dropLast) (hignored : part ∈ ignoredParts) :
    isSkipped file.toEntry.name.toList = true := by
  obtain ⟨hrule, hlower⟩ := folder_mem_of_ignored hignored
  refine (isSkipped_iff _).mpr (Or.inr ⟨.folder part, hrule, ?_⟩)
  rw [SkipRule.Fits, h.skipParts_name, ← List.map_dropLast, ← hlower]
  exact List.mem_map_of_mem hpart

/-- Of the files that count, those are overlooked below a folder that have such a name
themselves. -/
theorem isListed_eq (h : file.IsPlaced) (hcounts : counts settings file.toEntry = true) :
    isListed file.parts = !hasIgnoredName file.toEntry := by
  have hskipped := isSkipped_eq_false hcounts
  have hfolders : file.parts.dropLast.any ignoredParts.contains = false := by
    rw [List.any_eq_false]
    intro part hpart hignored
    rw [h.isSkipped_of_ignored hpart (List.contains_iff_mem.mp hignored)] at hskipped
    cases hskipped
  have hparts : file.parts.any ignoredParts.contains =
      (file.parts.dropLast ++ [file.parts.getLast h.parts_ne_nil]).any ignoredParts.contains := by
    rw [List.dropLast_concat_getLast]
  rw [isListed, hasIgnoredName, h.baseName_name, String.ofList_toList, hparts, List.any_append,
    hfolders, Bool.false_or, List.any_cons, List.any_nil, Bool.or_false]

end FolderFile.IsPlaced

/-- The entries without those that have one of the names that are never looked into. -/
def listedEntries (entries : List Entry) : List Entry :=
  entries.filter fun entry => !hasIgnoredName entry

section Agreement

variable (settings : Settings) {files : List FolderFile} {entries : List Entry}

/-- What is looked at below a folder and counts is what counts of these entries. -/
theorem counted_listed (hplaced : ∀ file ∈ files, file.IsPlaced) :
    ((files.filter fun file => isListed file.parts).map FolderFile.toEntry).filter
        (counts settings) =
      (listedEntries (files.map FolderFile.toEntry)).filter (counts settings) := by
  rw [listedEntries, List.filter_map, List.filter_map, List.filter_map, List.filter_filter,
    List.filter_filter]
  refine congrArg (List.map _) (List.filter_congr fun file hfile => ?_)
  cases hcounts : counts settings file.toEntry with
  | false => simp [hcounts]
  | true => simp [hcounts, (hplaced file hfile).isListed_eq hcounts]

/-- Each entry for a file of a folder is taken under its own name. -/
theorem fileOf?_of_perm (hplaced : ∀ file ∈ files, file.IsPlaced)
    (hentries : entries.Perm (files.map FolderFile.toEntry)) {entry : Entry}
    (hentry : entry ∈ entries) : fileOf? entry = some (.ofOctets entry.name entry.data) := by
  obtain ⟨file, hfile, rfl⟩ := List.mem_map.mp (hentries.mem_iff.mp hentry)
  exact (hplaced file hfile).fileOf?_toEntry

/-- The files of a folder are those of these entries, in another order. -/
theorem filesOfFolder_eq (hplaced : ∀ file ∈ files, file.IsPlaced)
    (hentries : entries.Perm (files.map FolderFile.toEntry)) :
    ∃ taken : List ProjectFile,
      taken.Perm (((listedEntries entries).filter (counts settings)).filterMap fileOf?) ∧
      filesOfFolder settings files =
        if Overflows settings (listedEntries entries) then
          .error (.totalTooLarge settings.maxTotalSize)
        else .ok taken := by
  let listed := files.filter fun file => isListed file.parts
  let sorted := listed.mergeSort fun a b => !b.parts.lex a.parts
  have hsorted : sorted.Perm listed := List.mergeSort_perm _ _
  have hcounted : ((sorted.map FolderFile.toEntry).filter (counts settings)).Perm
      ((listedEntries entries).filter (counts settings)) := by
    refine ((hsorted.map _).filter _).trans ?_
    rw [counted_listed settings hplaced]
    exact ((hentries.symm.filter _).filter _)
  have hfiles : ((sorted.map FolderFile.toEntry).filter (counts settings)).map
      (fun entry => ProjectFile.ofOctets entry.name entry.data) =
        ((sorted.map FolderFile.toEntry).filter (counts settings)).filterMap fileOf? := by
    rw [← List.filterMap_eq_map]
    refine List.filterMap_congr fun entry hentry => ?_
    have hmem : entry ∈ entries :=
      (List.mem_filter.mp (List.mem_filter.mp (hcounted.mem_iff.mp hentry)).1).1
    exact (fileOf?_of_perm hplaced hentries hmem).symm
  refine ⟨_, hcounted.filterMap fileOf?, ?_⟩
  rw [filesOfFolder, select_eq]
  by_cases hover : Overflows settings (listedEntries entries)
  · rw [if_pos hover, if_pos ((overflows_congr hcounted).mpr hover)]
    rfl
  · rw [if_neg hover, if_neg (mt (overflows_congr hcounted).mp hover), ← hfiles]
    rfl

/-- Every entry of a placed file gives a file. -/
theorem length_taken (hplaced : ∀ file ∈ files, file.IsPlaced)
    (hentries : entries.Perm (files.map FolderFile.toEntry)) {chosen : List Entry}
    (hchosen : chosen.Sublist entries) : (chosen.filterMap fileOf?).length = chosen.length := by
  rw [List.filterMap_length_eq_length]
  intro entry hentry
  rw [fileOf?_of_perm hplaced hentries (hchosen.subset hentry)]
  rfl

/-- A folder comes to the same as an archive with the same files, in any order, less those that have
a name that is never looked into. With all files, the two come to the same exactly if none that
counts has such a name, or if the others are too large together already. -/
theorem folder_agrees_with_archive_iff (hplaced : ∀ file ∈ files, file.IsPlaced)
    (hentries : entries.Perm (files.map FolderFile.toEntry)) :
    Agree settings (filesOfFolder settings files)
        (filesOfArchive settings (listedEntries entries)) ∧
      (Agree settings (filesOfFolder settings files) (filesOfArchive settings entries) ↔
        (∀ entry ∈ entries, counts settings entry = true → hasIgnoredName entry = false) ∨
          Overflows settings (listedEntries entries)) := by
  obtain ⟨taken, htaken, hfolder⟩ := filesOfFolder_eq settings hplaced hentries
  have hsublist : (listedEntries entries).Sublist entries := List.filter_sublist
  have hcounted : (listedEntries entries).filter (counts settings) =
      (entries.filter (counts settings)).filter fun entry => !hasIgnoredName entry := by
    rw [listedEntries, List.filter_filter, List.filter_filter]
    exact List.filter_congr fun _ _ => Bool.and_comm _ _
  rw [hfolder, filesOfArchive_eq, filesOfArchive_eq]
  by_cases hover : Overflows settings (listedEntries entries)
  · rw [if_pos hover, if_pos hover, if_pos (hover.of_sublist hsublist)]
    exact ⟨.refused, iff_of_true .refused (Or.inr hover)⟩
  · rw [if_neg hover, if_neg hover, or_iff_left hover]
    refine ⟨.taken htaken, ⟨fun hagree => ?_, fun hnone => ?_⟩⟩
    · -- Both give as many files, so that as many entries count with the names as without them.
      split at hagree
      · cases hagree
      · cases hagree with
        | taken hsame =>
          have hlength := (htaken.symm.trans hsame).length_eq
          rw [length_taken hplaced hentries (List.filter_sublist.trans hsublist),
            length_taken hplaced hentries List.filter_sublist, hcounted] at hlength
          intro entry hentry hcounts
          have hkept := List.length_filter_eq_length_iff.mp hlength entry
            (List.mem_filter.mpr ⟨hentry, hcounts⟩)
          simpa using hkept
    · have hsame : (listedEntries entries).filter (counts settings) =
          entries.filter (counts settings) := by
        rw [hcounted, List.filter_eq_self]
        intro entry hentry
        obtain ⟨hmem, hcounts⟩ := List.mem_filter.mp hentry
        rw [hnone entry hmem hcounts, Bool.not_false]
      rw [if_neg (mt (overflows_congr (.of_eq hsame.symm)).mp hover), ← hsame]
      exact .taken htaken

end Agreement

/-- A folder with a page, and with a file that is called as the folder of what has been built. -/
def shopFolder : List FolderFile :=
  [⟨["src", "App.jsx"], octetsOfText "<a/>"⟩, ⟨["build"], octetsOfText "x"⟩]

/-- An archive with the same files, in the other order. -/
def shopArchive : List Entry :=
  [⟨"build", octetsOfText "x"⟩, ⟨"src/App.jsx", octetsOfText "<a/>"⟩]

/-- The folder comes to the same as the archive without the file that has the name of a folder, and
not to the same as the whole archive. -/
theorem folder_agrees_with_archive_shop :
    (∀ file ∈ shopFolder, file.IsPlaced) ∧
      shopArchive.Perm (shopFolder.map FolderFile.toEntry) ∧
      Agree .standard (filesOfFolder .standard shopFolder)
        (filesOfArchive .standard (listedEntries shopArchive)) ∧
      ¬Agree .standard (filesOfFolder .standard shopFolder)
        (filesOfArchive .standard shopArchive) := by
  have hplaced : ∀ file ∈ shopFolder, file.IsPlaced := by
    intro file hfile
    rcases List.mem_cons.mp hfile with rfl | hfile
    · exact ⟨by decide, by decide, by decide, rfl⟩
    · obtain rfl := List.mem_singleton.mp hfile
      exact ⟨by decide, by decide, by decide, rfl⟩
  have hentries : shopArchive.Perm (shopFolder.map FolderFile.toEntry) := List.Perm.swap _ _ _
  obtain ⟨hagree, hiff⟩ := folder_agrees_with_archive_iff .standard hplaced hentries
  refine ⟨hplaced, hentries, hagree, mt hiff.mp ?_⟩
  decide +kernel

/-- Both ways of taking in a file with the name of a folder should give it, and a folder does
not. -/
theorem folder_drops_named_file :
    filesOfFolder .standard [⟨["build"], octetsOfText "x"⟩] = .ok [] ∧
      filesOfArchive .standard [⟨"build", octetsOfText "x"⟩] =
        .ok [⟨"build", "x", 1, "unknown"⟩] := by
  constructor
  · have hlisted : isListed ["build"] = false := by decide
    simp only [filesOfFolder, List.filter_cons, hlisted, Bool.false_eq_true, if_false,
      List.filter_nil, List.mergeSort_nil, List.map_nil]
    rfl
  · rfl

end Restack.Intake
