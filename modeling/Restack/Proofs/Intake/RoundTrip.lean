import Mathlib.Algebra.GroupWithZero.Nat
import Mathlib.Data.List.Basic
import Mathlib.Data.List.Forall2
import Restack.Proofs.Intake.Selection
import Restack.Proofs.Text.Utf8

/-!
# Packing files and taking them in again

Records of files are packed into an archive by their names and texts. Taking this archive in gives
the same files back, in the same order and as often as they were packed: the octets of a text are
read as this text, and files that may be taken in under their own names keep them.
-/

namespace Restack.Intake

open Restack.Text Restack.Archive

/-- A record tells a file by its name and its text. The name of a file that has been made anew
counts where there is no other. -/
structure Describes (record : List (String × Value)) (file : String × String) : Prop where
  name : record.lookup "path" = some (.str file.1) ∨
    (∀ value, record.lookup "path" = some value → value.truthy = false) ∧
      record.lookup "newPath" = some (.str file.1)
  content : record.lookup "content" = some (.str file.2)

/-- A file may be taken in under its own name, and with its text. -/
structure IsPortable (settings : Settings) (file : String × String) : Prop where
  named : file.1 ≠ ""
  clean : cleanPath file.1.toList = file.1.toList
  not_skipped : isSkipped file.1.toList = false
  not_binary : isBinary file.1.toList = false
  size_le : file.2.utf8ByteSize ≤ settings.maxFileSize

/-- A file as an entry of an archive. -/
def packed (file : String × String) : Entry := ⟨file.1, octetsOfText file.2⟩

/-- A file as it is taken in: with all of its text, and with the type that its name tells. -/
def restored (file : String × String) : ProjectFile :=
  { path := file.1
    content := file.2
    size := file.2.utf8ByteSize
    type := fileType file.1.toList }

/-- An entry is as large as the text of its file in octets. -/
theorem size_packed (file : String × String) : (packed file).data.size = file.2.utf8ByteSize := by
  rw [packed, octetsOfText_eq_toByteArray, String.size_toByteArray]

/-- Packed files are as large as their texts in octets. -/
theorem totalSize_map_packed (files : List (String × String)) :
    totalSize (files.map packed) = (files.map fun file => file.2.utf8ByteSize).sum := by
  induction files with
  | nil => rfl
  | cons file rest ih =>
    rw [List.map_cons, totalSize, size_packed, ih, List.map_cons, List.sum_cons]

/-- A record that tells a file is packed as this file. -/
theorem Describes.entryOf_eq {record : List (String × Value)} {file : String × String}
    (h : Describes record file) (hname : file.1 ≠ "") : entryOf record = .ok (packed file) := by
  have htruthy : (Value.str file.1).truthy = true := by simpa [Value.truthy] using hname
  have hcontent : ((record.lookup "content").getD (.str "")).display = file.2 := by
    rw [h.content]
    rfl
  have hfound : ((record.lookup "path").filter Value.truthy <|>
      (record.lookup "newPath").filter Value.truthy) = some (.str file.1) := by
    rcases h.name with hpath | ⟨hpath, hnew⟩
    · rw [hpath, Option.filter_some_pos htruthy]
      rfl
    · have hnone : (record.lookup "path").filter Value.truthy = none := by
        rw [Option.filter_eq_none_iff]
        intro value hvalue
        rw [hpath value hvalue]
        exact Bool.false_ne_true
      rw [hnone, hnew, Option.filter_some_pos htruthy]
      rfl
  simp only [entryOf, hfound, hcontent]
  rfl

variable {settings : Settings} {file : String × String}

/-- A file that can be carried over counts. -/
theorem IsPortable.counts_packed (h : IsPortable settings file) :
    counts settings (packed file) = true := by
  have hsize : ((packed file).data.size : Int) ≤ settings.maxFileSize := by
    rw [size_packed]
    exact h.size_le
  have hskipped : isSkipped (packed file).name.toList = false := h.not_skipped
  simp [counts, hsize, hskipped]

/-- A file that can be carried over is taken out as it was put in. -/
theorem IsPortable.fileOf?_packed (h : IsPortable settings file) :
    fileOf? (packed file) = some (restored file) := by
  have hne : file.1.toList.isEmpty = false := by
    simpa using h.named
  have hfile : ProjectFile.ofOctets file.1 (octetsOfText file.2) = restored file := by
    have hsize : (octetsOfText file.2).size = file.2.utf8ByteSize := size_packed file
    rw [ProjectFile.ofOctets, h.not_binary, textOfOctets_octetsOfText, hsize]
    rfl
  rw [fileOf?, packed, h.clean, hne, String.ofList_toList, hfile]
  rfl

/-- Records that tell files are packed as these files. -/
theorem pack_eq {records : List (List (String × Value))} {files : List (String × String)}
    (hrecords : List.Forall₂ Describes records files) (hnamed : ∀ file ∈ files, file.1 ≠ "") :
    pack records = .ok (files.map packed) := by
  induction hrecords with
  | nil => rfl
  | cons hrecord _ ih =>
    have hrest := ih fun file hfile => hnamed file (List.mem_cons_of_mem _ hfile)
    rw [pack] at hrest ⊢
    rw [List.mapM_cons, hrecord.entryOf_eq (hnamed _ List.mem_cons_self), hrest]
    rfl

/-- Taking in what has been packed gives the files back, if each of them may be taken in and all of
them together are not too large. -/
theorem filesOfArchive_pack {records : List (List (String × Value))}
    {files : List (String × String)} (hrecords : List.Forall₂ Describes records files)
    (hportable : ∀ file ∈ files, IsPortable settings file)
    (htotal : (files.map fun file => file.2.utf8ByteSize).sum ≤ settings.maxTotalSize) :
    (pack records).bind (filesOfArchive settings) = .ok (files.map restored) := by
  have hcounted : (files.map packed).filter (counts settings) = files.map packed := by
    rw [List.filter_eq_self]
    intro entry hentry
    obtain ⟨file, hfile, rfl⟩ := List.mem_map.mp hentry
    exact (hportable file hfile).counts_packed
  have hfits : ¬Overflows settings (files.map packed) := by
    rw [Overflows, hcounted, totalSize_map_packed]
    omega
  have hfiles : (files.map packed).filterMap fileOf? = files.map restored := by
    rw [List.filterMap_map, ← List.filterMap_eq_map]
    exact List.filterMap_congr fun file hfile => (hportable file hfile).fileOf?_packed
  rw [pack_eq hrecords fun file hfile => (hportable file hfile).named, Except.bind,
    filesOfArchive_eq, if_neg hfits, hcounted, hfiles]

/-- Records of a page that has been kept and of one that has been made anew. -/
def pageRecords : List (List (String × Value)) :=
  [[("path", .str "src/App.jsx"), ("content", .str "<h1>größer</h1>")],
    [("path", .null), ("newPath", .str "lib/main.dart"), ("content", .str "// π ≠ 3 😀")]]

/-- The pages of these records. -/
def pages : List (String × String) :=
  [("src/App.jsx", "<h1>größer</h1>"), ("lib/main.dart", "// π ≠ 3 😀")]

/-- Two pages are taken in as they were packed. -/
theorem filesOfArchive_pack_pages :
    List.Forall₂ Describes pageRecords pages ∧ (∀ file ∈ pages, IsPortable .standard file) ∧
      (pack pageRecords).bind (filesOfArchive .standard) =
        .ok [⟨"src/App.jsx", "<h1>größer</h1>", 17, "javascript"⟩,
          ⟨"lib/main.dart", "// π ≠ 3 😀", 16, "dart"⟩] := by
  have hrecords : List.Forall₂ Describes pageRecords pages :=
    .cons ⟨.inl rfl, rfl⟩ (.cons ⟨.inr ⟨fun _ h => by cases h; rfl, rfl⟩, rfl⟩ .nil)
  have hportable : ∀ file ∈ pages, IsPortable .standard file := by
    intro file hfile
    rcases List.mem_cons.mp hfile with rfl | hfile
    · exact ⟨by decide, rfl, by decide +kernel, by decide +kernel, by decide +kernel⟩
    · obtain rfl := List.mem_singleton.mp hfile
      exact ⟨by decide, rfl, by decide +kernel, by decide +kernel, by decide +kernel⟩
  exact ⟨hrecords, hportable, filesOfArchive_pack hrecords hportable (by decide +kernel)⟩

end Restack.Intake
