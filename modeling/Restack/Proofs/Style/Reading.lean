import Restack.Proofs.Text.Matching
import Restack.Proofs.Text.Trimming
import Restack.Proofs.Value.Entries
import Restack.Style.Sheet

/-!
# How a style sheet is read

A class with its block, and a property with its value, are read from the front of a text without a
choice: the name takes all characters of its kind, and the block or the value goes on to the first
character that ends it.
-/

namespace Restack.Style.Sheet

open Restack.Text
open Pattern Spot

/-- Characters that the name of a class may begin with. -/
def isClassStart (c : Char) : Bool :=
  isClassChar c && !isAsciiDigit c

/-- Characters of the name of a property. -/
def isPropertyChar (c : Char) : Bool :=
  isAsciiLetter c || c == '-'

/-- A class with its block at the front of a text, and the text behind them. -/
def readBlock : List Char → Option ((List Char × List Char) × List Char)
  | '.' :: rest =>
    if rest.head?.any isClassStart then
      match (rest.dropWhile isClassChar).dropWhile isBlank with
      | '\x7b' :: inner =>
        match inner.dropWhile (· != '\x7d') with
        | _ :: tail => some ((rest.takeWhile isClassChar, inner.takeWhile (· != '\x7d')), tail)
        | [] => none
      | _ => none
    else none
  | _ => none

/-- A property with its value at the front of a text, and the text behind them. -/
def readSetting (s : List Char) : Option ((List Char × List Char) × List Char) :=
  if s.head?.any isPropertyChar then
    match (s.dropWhile isPropertyChar).dropWhile isBlank with
    | ':' :: rest =>
      if (rest.takeWhile (· != ';')).isEmpty then none
      else
        some ((s.takeWhile isPropertyChar, trim (rest.takeWhile (· != ';'))),
          rest.dropWhile (· != ';'))
    | _ => none
  else none

/-- What a class may begin with may stand within one. -/
theorem isClassChar_of_isClassStart (c : Char) (h : isClassStart c = true) :
    isClassChar c = true :=
  (Bool.and_eq_true_iff.mp h).1

/-- There are no blanks in the names of classes. -/
theorem isBlank_of_isClassChar {c : Char} (h : isClassChar c = true) : isBlank c = false := by
  simp only [isClassChar, Bool.or_eq_true, beq_iff_eq] at h
  rcases h with ((hletter | hdigit) | rfl) | rfl
  · exact isBlank_of_isAsciiLetter hletter
  · exact isBlank_of_isAsciiDigit hdigit
  · rfl
  · rfl

/-- There are no blanks in the names of properties. -/
theorem isBlank_of_isPropertyChar {c : Char} (h : isPropertyChar c = true) : isBlank c = false := by
  simp only [isPropertyChar, Bool.or_eq_true, beq_iff_eq] at h
  rcases h with hletter | rfl
  · exact isBlank_of_isAsciiLetter hletter
  · rfl

section Stuck

variable {p : Char → Bool} {next : Spot → Option Spot} {here : Spot} {sign : Char}

/-- A place where a test is met does not begin with what the test refuses. -/
theorem head?_ne_of_meets (hsign : p sign = false) (hmeets : here.meets p = true) :
    here.rest.head? ≠ some sign := by
  intro hhead
  rw [Spot.meets, hhead, Option.any_some, hsign] at hmeets
  cases hmeets

/-- Blanks and a sign behind them cannot begin at a character that is neither. -/
theorem follow_blanks_sign_of_meets (hblank : ∀ c, p c = true → isBlank c = false)
    (hsign : p sign = false) (hmeets : here.meets p = true) :
    Pattern.blanks.follow ((one (· == sign)).follow next) here = none := by
  rw [Pattern.blanks, follow_run_of_not_meets (not_meets_of_meets hblank hmeets)]
  exact follow_sign_of_ne (head?_ne_of_meets hsign hmeets)

/-- Blanks before a sign are all passed over. -/
theorem follow_blanks_sign (hsign : isBlank sign = false) :
    Pattern.blanks.follow ((one (· == sign)).follow next) here =
      (one (· == sign)).follow next (here.past isBlank) :=
  follow_run_of_stuck fun _ hmeets => follow_sign_of_ne (head?_ne_of_meets hsign hmeets)

end Stuck

/-- What a match of a class tells of it: its name and its block. -/
def viewBlock (m : Match) : List Char × List Char :=
  ((m.group 1).toList, (m.group 2).toList)

section Block

variable {spot : Spot} {name : List Char} {start : Nat}

/-- What stands behind the opening brace of a class: a block up to its closing brace. -/
theorem map_follow_block (hcaptures : spot.captures = [⟨1, start, name⟩]) (first : Nat) :
    ((group 2 (run (· != '\x7d'))).follow ((one (· == '\x7d')).follow some) spot).map
        (fun reached => (viewBlock ⟨first, reached.pos, reached.captures⟩, reached.rest)) =
      match spot.rest.dropWhile (· != '\x7d') with
      | _ :: tail => some ((name, spot.rest.takeWhile (· != '\x7d')), tail)
      | [] => none := by
  rw [follow_group_run_of_stuck fun _ hmeets => follow_sign_of_ne (head?_ne_of_meets rfl hmeets)]
  cases hinner : spot.rest.dropWhile (· != '\x7d') with
  | nil =>
    rw [follow_sign_of_ne (by simp [Spot.keep, Spot.past, hinner])]
    rfl
  | cons c tail =>
    obtain rfl : c = '\x7d' := by
      have hhead := List.head?_dropWhile_not (· != '\x7d') spot.rest
      rw [hinner] at hhead
      simpa using hhead
    have hnext : ((spot.past (· != '\x7d')).keep 2 spot.pos
        (spot.rest.takeWhile (· != '\x7d'))).rest = '\x7d' :: tail := hinner
    rw [follow_sign hnext]
    simp [viewBlock, Match.group, Match.group?, Match.capture?, Spot.keep, Spot.advance, Spot.past,
      hcaptures]

/-- What stands behind the name of a class. -/
theorem map_follow_opening (hcaptures : spot.captures = [⟨1, start, name⟩]) (first : Nat) :
    (Pattern.blanks.follow ((one (· == '\x7b')).follow
        ((group 2 (run (· != '\x7d'))).follow ((one (· == '\x7d')).follow some))) spot).map
        (fun reached => (viewBlock ⟨first, reached.pos, reached.captures⟩, reached.rest)) =
      match spot.rest.dropWhile isBlank with
      | '\x7b' :: inner =>
        match inner.dropWhile (· != '\x7d') with
        | _ :: tail => some ((name, inner.takeWhile (· != '\x7d')), tail)
        | [] => none
      | _ => none := by
  rw [follow_blanks_sign rfl]
  split
  · rename_i inner hinner
    have hbrace : ((spot.past isBlank).advance '\x7b' inner).captures = [⟨1, start, name⟩] :=
      hcaptures
    rw [follow_sign hinner, map_follow_block hbrace]
    rfl
  · rename_i hother
    rw [follow_sign_of_ne]
    · rfl
    · intro hhead
      obtain ⟨rest, hrest⟩ := List.head?_eq_some_iff.mp hhead
      exact hother rest hrest

end Block

/-- Behind a block the text goes on after at least one character. -/
theorem readBlock_suffix {s tail : List Char} {found : List Char × List Char}
    (h : readBlock s = some (found, tail)) : ∃ c rest, s = c :: rest ∧ tail <:+ rest := by
  unfold readBlock at h
  split at h
  · rename_i rest
    split at h
    · split at h
      · rename_i inner hinner
        split at h
        · rename_i c after hafter
          cases h
          refine ⟨'.', rest, rfl, ?_⟩
          have hblock : c :: tail <:+ inner := hafter ▸ List.dropWhile_suffix _
          have hname : '\x7b' :: inner <:+ rest := hinner ▸
            (List.dropWhile_suffix _).trans (List.dropWhile_suffix _)
          exact ((List.suffix_cons _ _).trans hblock).trans ((List.suffix_cons _ _).trans hname)
        · cases h
      · cases h
    · cases h
  · cases h

/-- A class with its block is matched where it is read. -/
theorem classBlock_reads : classBlock.Reads viewBlock readBlock where
  suffix_of_some := readBlock_suffix
  map_matchFrom? spot := by
    change ((((one (· == '.')).follow ((group 1 (one isClassStart ++ run isClassChar)).follow
      (Pattern.blanks.follow ((one (· == '\x7b')).follow ((group 2 (run (· != '\x7d'))).follow
        ((one (· == '\x7d')).follow some))))) { spot with captures := [] }).map _).map _) = _
    rw [Option.map_map]
    unfold readBlock
    split
    · rename_i rest hrest
      have hname : ∀ here : Spot, here.meets isClassChar = true →
          Pattern.blanks.follow ((one (· == '\x7b')).follow ((group 2 (run (· != '\x7d'))).follow
            ((one (· == '\x7d')).follow some))) here = none := fun here hmeets =>
        follow_blanks_sign_of_meets (fun c => isBlank_of_isClassChar) rfl hmeets
      have hstart : ({ spot with captures := [] } : Spot).rest = '.' :: rest := hrest
      rw [follow_sign hstart,
        follow_group_of_stuck isClassChar_of_isClassStart hname]
      change Option.map _ (if rest.head?.any isClassStart then _ else _) = _
      split
      · exact map_follow_opening rfl _
      · rfl
    · rename_i hother
      rw [follow_sign_of_ne]
      · rfl
      · intro hhead
        obtain ⟨rest, hrest⟩ := List.head?_eq_some_iff.mp hhead
        exact hother rest hrest

/-- What a match of a setting tells of it: the property and its value. -/
def viewSetting (m : Match) : List Char × List Char :=
  ((m.group 1).toList, trim (m.group 2).toList)

section Value

variable {name : List Char} {start : Nat}

/-- A blank is no semicolon. -/
theorem ne_semicolon_of_isBlank {c : Char} (h : isBlank c = true) : (c != ';') = true := by
  rw [bne_iff_ne]
  rintro rfl
  cases h

/-- The value of a setting, taken from the place where it begins. -/
theorem map_follow_valueHere (first : Nat) {s : List Char} {spot : Spot} (hrest : spot.rest = s)
    (hcaptures : spot.captures = [⟨1, start, name⟩]) :
    ((group 2 (run1 (· != ';'))).follow some spot).map
        (fun reached => (viewSetting ⟨first, reached.pos, reached.captures⟩, reached.rest)) =
      if (s.takeWhile (· != ';')).isEmpty then none
      else some ((name, trim (s.takeWhile (· != ';'))), s.dropWhile (· != ';')) := by
  rw [follow_group_run1_some]
  cases s with
  | nil => simp [Spot.meets, hrest]
  | cons c rest =>
    rw [Spot.meets_cons hrest]
    split
    · rename_i hc
      simp [viewSetting, Match.group, Match.group?, Match.capture?, Spot.keep, Spot.past,
        hcaptures, hrest, hc]
    · rename_i hc
      simp [hc]

/-- What stands behind the colon of a setting. Blanks are passed over if something else follows;
if nothing does, the last of them is the value. -/
theorem map_follow_value (first : Nat) (s : List Char) (spot : Spot) (hrest : spot.rest = s)
    (hcaptures : spot.captures = [⟨1, start, name⟩]) :
    (Pattern.blanks.follow ((group 2 (run1 (· != ';'))).follow some) spot).map
        (fun reached => (viewSetting ⟨first, reached.pos, reached.captures⟩, reached.rest)) =
      if (s.takeWhile (· != ';')).isEmpty then none
      else some ((name, trim (s.takeWhile (· != ';'))), s.dropWhile (· != ';')) := by
  induction s generalizing spot with
  | nil =>
    rw [Pattern.blanks, follow_run_of_not_meets (by simp [Spot.meets, hrest])]
    exact map_follow_valueHere first hrest hcaptures
  | cons c rest ih =>
    cases hc : isBlank c with
    | false =>
      rw [Pattern.blanks, follow_run_of_not_meets ((Spot.meets_cons hrest).trans hc)]
      exact map_follow_valueHere first hrest hcaptures
    | true =>
      have hkind := ne_semicolon_of_isBlank hc
      have hgo := ih (spot.advance c rest) rfl hcaptures
      rw [Pattern.blanks] at hgo ⊢
      rw [follow_run_of_meets hrest hc]
      simp only [List.takeWhile_cons, List.dropWhile_cons, hkind, if_true, trim_cons_of_blank hc]
      cases hlater : (run isBlank).follow ((group 2 (run1 (· != ';'))).follow some)
        (spot.advance c rest) with
      | some reached =>
        rw [hlater] at hgo
        rw [Option.some_or, hgo, if_neg]
        · rfl
        · intro hnone
          rw [if_pos hnone] at hgo
          cases hgo
      | none =>
        rw [hlater] at hgo
        have hnil : rest.takeWhile (· != ';') = [] := by
          by_contra hne
          rw [if_neg (by simpa using hne)] at hgo
          cases hgo
        rw [Option.none_or, map_follow_valueHere first hrest hcaptures]
        simp [hkind, hnil, trim_cons_of_blank hc]

end Value

/-- Behind a setting the text goes on after at least one character. -/
theorem readSetting_suffix {s tail : List Char} {found : List Char × List Char}
    (h : readSetting s = some (found, tail)) : ∃ c rest, s = c :: rest ∧ tail <:+ rest := by
  cases s with
  | nil => cases h
  | cons c rest =>
    refine ⟨c, rest, rfl, ?_⟩
    unfold readSetting at h
    split at h
    · rename_i hc
      split at h
      · rename_i value hvalue
        split at h
        · cases h
        · cases h
          have hc : isPropertyChar c = true := hc
          rw [List.dropWhile_cons_of_pos hc] at hvalue
          have hcolon : ':' :: value <:+ rest := hvalue ▸
            (List.dropWhile_suffix _).trans (List.dropWhile_suffix _)
          exact (List.dropWhile_suffix _).trans ((List.suffix_cons _ _).trans hcolon)
      · cases h
    · cases h

/-- A property with its value is matched where it is read. -/
theorem setting_reads : setting.Reads viewSetting readSetting where
  suffix_of_some := readSetting_suffix
  map_matchFrom? spot := by
    change ((((group 1 (one isPropertyChar ++ run isPropertyChar)).follow
      (Pattern.blanks.follow ((one (· == ':')).follow (Pattern.blanks.follow
        ((group 2 (run1 (· != ';'))).follow some)))) { spot with captures := [] }).map _).map _) = _
    rw [Option.map_map]
    have hname : ∀ here : Spot, here.meets isPropertyChar = true →
        Pattern.blanks.follow ((one (· == ':')).follow (Pattern.blanks.follow
          ((group 2 (run1 (· != ';'))).follow some))) here = none := fun here hmeets =>
      follow_blanks_sign_of_meets (fun c => isBlank_of_isPropertyChar) rfl hmeets
    rw [follow_group_of_stuck (fun c hc => hc) hname, readSetting]
    change Option.map _ (if spot.rest.head?.any isPropertyChar then _ else _) = _
    split
    · rw [follow_blanks_sign rfl]
      split
      · rename_i value hvalue
        rw [follow_sign hvalue]
        exact map_follow_value _ value _ rfl rfl
      · rename_i hother
        rw [follow_sign_of_ne]
        · rfl
        · intro hhead
          obtain ⟨rest, hrest⟩ := List.head?_eq_some_iff.mp hhead
          exact hother rest hrest
    · rfl

/-- A text that a class can be called by. -/
structure IsClassName (name : List Char) : Prop where
  start : name.head?.any isClassStart = true
  kind : ∀ c ∈ name, isClassChar c = true

/-- A property with a value that it can be given. -/
structure IsSetting (setting : List Char × List Char) : Prop where
  start : setting.1 ≠ []
  kind : ∀ c ∈ setting.1, isPropertyChar c = true
  trimmed : IsTrimmed setting.2
  inside : ';' ∉ setting.2

/-- What is read as a block is of a class, and holds no closing brace. -/
theorem isClassName_of_readBlock {s block tail : List Char} {name : List Char}
    (h : readBlock s = some ((name, block), tail)) : IsClassName name ∧ '\x7d' ∉ block := by
  unfold readBlock at h
  split at h
  · rename_i rest
    split at h
    · rename_i hstart
      split at h
      · split at h
        · cases h
          refine ⟨⟨?_, fun c hc => List.mem_takeWhile_imp hc⟩, fun hmem => ?_⟩
          · cases rest with
            | nil => cases hstart
            | cons c rest =>
              have hc := isClassChar_of_isClassStart c hstart
              rw [List.takeWhile_cons_of_pos hc]
              exact hstart
          · exact absurd (List.mem_takeWhile_imp hmem) (by decide)
        · cases h
      · cases h
    · cases h
  · cases h

/-- What is read as a setting is one, and its value stood in the text. -/
theorem isSetting_of_readSetting {s tail : List Char} {found : List Char × List Char}
    (h : readSetting s = some (found, tail)) : IsSetting found ∧ ∀ c ∈ found.2, c ∈ s := by
  unfold readSetting at h
  split at h
  · rename_i hstart
    split at h
    · rename_i value hvalue
      split at h
      · cases h
      · cases h
        refine ⟨⟨?_, fun c hc => List.mem_takeWhile_imp hc, isTrimmed_trim _, fun hmem => ?_⟩,
          fun c hc => ?_⟩
        · cases s with
          | nil => cases hstart
          | cons c rest =>
            have hc : isPropertyChar c = true := hstart
            rw [List.takeWhile_cons_of_pos hc]
            exact List.cons_ne_nil _ _
        · exact absurd (List.mem_takeWhile_imp ((isInfix_trim _).subset hmem)) (by decide)
        · have hvalue : value <:+ s := (List.suffix_cons ':' value).trans
            (hvalue ▸ (List.dropWhile_suffix _).trans (List.dropWhile_suffix _))
          exact hvalue.subset ((List.takeWhile_prefix _).subset ((isInfix_trim _).subset hc))
    · cases h
  · cases h

/-- The settings of a block are what is read from it. -/
theorem settingsOf_eq (block : String) : settingsOf block =
    Value.ofEntries ((scan readSetting 0 block.toList).map fun found =>
      (String.ofList found.1, String.ofList found.2)) := by
  rw [settingsOf, ← setting_reads.map_findAll, List.map_map]
  refine congrArg Value.ofEntries (List.map_congr_left fun m hm => ?_)
  have hview : viewSetting m ∈ scan readSetting 0 block.toList :=
    setting_reads.map_findAll block ▸ List.mem_map_of_mem hm
  obtain ⟨front, tail, -, hread⟩ := exists_suffix_of_mem_scan hview
  have hname := (isSetting_of_readSetting hread).1.kind
  have htrimmed : IsTrimmed (m.group 1).toList :=
    .of_forall fun c hc => isBlank_of_isPropertyChar (hname c hc)
  simp [viewSetting, trimmed, htrimmed.trim_eq]

/-- The classes of a style sheet are what is read from it. -/
theorem classes_ofText (code : String) : (ofText code).classes =
    Value.ofEntries ((scan readBlock 0 code.toList).map fun found =>
      (String.ofList found.1, settingsOf (String.ofList found.2))) := by
  rw [ofText, ← classBlock_reads.map_findAll, List.map_map]
  refine congrArg Value.ofEntries (List.map_congr_left fun m _ => ?_)
  simp [viewBlock]

/-- What can be read from a text: each class stands once, with a name that a class can have, and
sets each of its properties once, to a value that a block can hold. -/
structure WellFormed (sheet : Sheet) : Prop where
  name : ∀ entry ∈ sheet.classes, IsClassName entry.1.toList
  setting : ∀ entry ∈ sheet.classes, ∀ setting ∈ entry.2,
    IsSetting (setting.1.toList, setting.2.toList) ∧ '\x7d' ∉ setting.2.toList
  nodup : (sheet.classes.map Prod.fst).Nodup
  nodup_settings : ∀ entry ∈ sheet.classes, (entry.2.map Prod.fst).Nodup

/-- A style sheet that is read is well formed, whatever the text is. -/
theorem ofText_wellFormed (code : String) : (ofText code).WellFormed := by
  have hentry : ∀ entry ∈ (ofText code).classes, ∃ front name block tail,
      readBlock front = some ((name, block), tail) ∧
        entry = (String.ofList name, settingsOf (String.ofList block)) := by
    intro entry hentry
    rw [classes_ofText] at hentry
    obtain ⟨⟨name, block⟩, hfound, rfl⟩ := List.mem_map.mp (Value.mem_of_mem_ofEntries hentry)
    obtain ⟨front, tail, -, hread⟩ := exists_suffix_of_mem_scan hfound
    exact ⟨front, name, block, tail, hread, rfl⟩
  constructor
  · intro entry hmem
    obtain ⟨front, name, block, tail, hread, rfl⟩ := hentry entry hmem
    rw [String.toList_ofList]
    exact (isClassName_of_readBlock hread).1
  · intro entry hmem setting hsetting
    obtain ⟨front, name, block, tail, hread, rfl⟩ := hentry entry hmem
    rw [settingsOf_eq, String.toList_ofList] at hsetting
    obtain ⟨found, hfound, rfl⟩ := List.mem_map.mp (Value.mem_of_mem_ofEntries hsetting)
    obtain ⟨inner, after, hinner, hfront⟩ := exists_suffix_of_mem_scan hfound
    obtain ⟨hvalid, hinside⟩ := isSetting_of_readSetting hfront
    rw [String.toList_ofList, String.toList_ofList]
    exact ⟨hvalid, fun hbrace =>
      (isClassName_of_readBlock hread).2 (hinner.subset (hinside _ hbrace))⟩
  · rw [classes_ofText]
    exact Value.nodup_keys_ofEntries _
  · intro entry hmem
    obtain ⟨front, name, block, tail, hread, rfl⟩ := hentry entry hmem
    exact Value.nodup_keys_ofEntries _

end Restack.Style.Sheet
