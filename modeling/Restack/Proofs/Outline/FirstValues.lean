import Mathlib.Tactic.SplitIfs
import Restack.Outline.Project
import Restack.Proofs.Outline.Blocks
import Restack.Proofs.Text.Stretches

/-!
# First values and where they stand

The first value of a variable is read from the text of a literal on the line of the variable. A text
among such values stands there between two quotes of one kind, exactly as it is: nothing is done
about backslashes when it is read.
-/

namespace Restack.Outline

open Restack.Text

/-- A text stands between two quotes of one kind within another. -/
def StandsQuoted (s : String) (whole : List Char) : Prop :=
  ∃ mark ∈ ['\x27', '"', '\x60'], mark :: (s.toList ++ [mark]) <:+: whole

/-- What stands between quotes in a part stands so in the whole. -/
theorem StandsQuoted.mono {s : String} {part whole : List Char} (h : StandsQuoted s part)
    (hpart : part <:+: whole) : StandsQuoted s whole := by
  obtain ⟨mark, hmark, hquoted⟩ := h
  exact ⟨mark, hmark, hquoted.trans hpart⟩

/-- The text of a literal is a stretch of the raw text. -/
theorem isInfix_literalText (raw : List Char) : literalText raw <:+: raw :=
  (isInfix_trim _).trans ((isPrefix_dropTail _ _).isInfix.trans (isInfix_trim raw))

/-- No numeral is read as a text. -/
theorem readNumeral?_ne_str (raw : List Char) (s : String) :
    readNumeral? raw ≠ some (.str s) := by
  unfold readNumeral?
  split
  · exact nofun
  · intro h
    obtain ⟨_, -, h⟩ := Option.map_eq_some_iff.mp h
    cases h

/-- What does not stand between quotes is not read as a text. -/
theorem readLiteral_ne_str {raw : List Char} (h : betweenQuotes? (literalText raw) = none)
    (s : String) : readLiteral raw ≠ .str s := by
  simp only [readLiteral, h]
  split_ifs with htrue hfalse hlist hobject
  · exact nofun
  · exact nofun
  · exact nofun
  · exact nofun
  · cases hnumeral : readNumeral? (literalText raw) with
    | none => exact nofun
    | some value => exact fun heq => readNumeral?_ne_str _ s (hnumeral.trans (congrArg some heq))

/-- A literal that is read as a text stands between quotes. -/
theorem standsQuoted_of_readLiteral {raw : List Char} {s : String}
    (h : readLiteral raw = .str s) : StandsQuoted s raw := by
  cases hcontent : betweenQuotes? (literalText raw) with
  | none => exact absurd h (readLiteral_ne_str hcontent s)
  | some content =>
    simp only [readLiteral, hcontent] at h
    cases h
    obtain ⟨mark, hmark, hliteral⟩ := eq_of_betweenQuotes? hcontent
    refine ⟨mark, hmark, ?_⟩
    rw [String.toList_ofList, ← hliteral]
    exact isInfix_literalText raw

/-- A variable is declared on one of the lines, which stand behind an offset. If its first value is
a text, the line holds this text between quotes. -/
def StateVariable.StandsOn (v : StateVariable) (lines : List String) (offset : Nat) : Prop :=
  ∃ i line, lines[i]? = some line ∧ v.line = offset + i + 1 ∧
    ∀ s, v.initial = .str s → StandsQuoted s line.toList

/-- What stands on a slice of some lines stands on these lines. -/
theorem StateVariable.StandsOn.of_slice {v : StateVariable} {lines : List String}
    {first last : Nat} (h : v.StandsOn (slice lines first last) first) : v.StandsOn lines 0 := by
  obtain ⟨i, line, hline, hnumber, hquoted⟩ := h
  exact ⟨first + i, line, getElem?_of_slice hline, by omega, hquoted⟩

/-- A variable that is read from a literal on its line. -/
theorem StateVariable.standsOn_of_raw {v : StateVariable} {lines : List String} {offset i : Nat}
    {line : String} {raw : List Char} (hline : lines[i]? = some line)
    (hnumber : v.line = offset + i + 1) (hraw : raw <:+: line.toList)
    (hinitial : v.initial = readLiteral raw) : v.StandsOn lines offset := by
  refine ⟨i, line, hline, hnumber, fun s hs => ?_⟩
  exact (standsQuoted_of_readLiteral (hinitial ▸ hs)).mono hraw

/-- A variable whose first value is read from a stretch of a line stands there. -/
theorem StateVariable.standsOn_ofText {name raw : String} {lines : List String} {offset i : Nat}
    {line : String} (hline : lines[i]? = some line) (hraw : raw.toList <:+: line.toList) :
    (ofText name raw (offset + i + 1)).StandsOn lines offset := by
  unfold ofText
  exact standsOn_of_raw hline rfl hraw (by dsimp only)

/-- The entry on a line: its value is a stretch of the line. -/
theorem raw_of_entryOn? {text : String} {number : Nat} {entry : Entry}
    (h : entryOn? text number = some entry) :
    entry.line = number ∧ entry.raw.toList <:+: text.toList := by
  obtain ⟨m, hm, rfl⟩ := Option.map_eq_some_iff.mp h
  exact ⟨rfl, Pattern.group_of_matchStart? hm 2⟩

/-- What stands after the first brace of a line is a stretch of it. -/
theorem isInfix_afterBrace (line : List Char) : afterBrace line <:+: line := by
  unfold afterBrace
  split
  · rename_i before rest hcut
    exact isInfix_of_cutAt hcut
  · exact List.infix_rfl

/-- The value of an entry is a stretch of its line. -/
theorem raw_of_entriesBelow {depth : Int} {below : List (String × Nat)} {entry : Entry}
    (h : entry ∈ entriesBelow depth below) :
    ∃ line, (line, entry.line) ∈ below ∧ entry.raw.toList <:+: line.toList := by
  induction below generalizing depth with
  | nil => cases h
  | cons head rest ih =>
    obtain ⟨line, number⟩ := head
    rw [entriesBelow] at h
    rcases List.mem_append.mp h with hhere | hrest
    · split at hhere
      · obtain ⟨hnumber, hraw⟩ := raw_of_entryOn? (Option.mem_toList.mp hhere)
        exact ⟨line, hnumber ▸ List.mem_cons_self, hraw⟩
      · cases hhere
    · obtain ⟨other, hmem, hraw⟩ := ih hrest
      exact ⟨other, List.mem_cons_of_mem _ hmem, hraw⟩

/-- The values of entries on one line are stretches of it. -/
theorem raw_of_inlineEntries? {line : String} {number : Nat} {entries : List Entry} {entry : Entry}
    (h : inlineEntries? line number = some entries) (hentry : entry ∈ entries) :
    entry.line = number ∧ entry.raw.toList <:+: line.toList := by
  obtain ⟨place, -, rfl⟩ := Option.map_eq_some_iff.mp h
  obtain ⟨part, hpart, hread⟩ := List.mem_filterMap.mp hentry
  have hstretch : part <:+: line.toList :=
    (isInfix_of_mem_splitOnChar hpart).trans
      ((List.take_prefix _ _).isInfix.trans (isInfix_afterBrace line.toList))
  obtain ⟨hnumber, hraw⟩ := raw_of_entryOn? hread
  rw [String.toList_ofList] at hraw
  exact ⟨hnumber, hraw.trans hstretch⟩

/-- The value of an entry of an object is a stretch of the line that the entry stands on. -/
theorem raw_of_objectEntries {lines : List String} {start : Nat} {entry : Entry}
    (h : entry ∈ objectEntries lines start) :
    ∃ line, lines[entry.line]? = some line ∧ entry.raw.toList <:+: line.toList := by
  unfold objectEntries at h
  split at h
  · cases h
  · rename_i first hfirst
    split at h
    · rename_i entries hinline
      obtain ⟨hnumber, hraw⟩ := raw_of_inlineEntries? hinline h
      exact ⟨first, hnumber ▸ hfirst, hraw⟩
    · obtain ⟨line, hmem, hraw⟩ := raw_of_entriesBelow h
      obtain ⟨hlow, hslice⟩ := List.mk_mem_zipIdx_iff_le_and_getElem?_sub.mp hmem
      have hline := getElem?_of_slice hslice
      rw [Nat.add_sub_cancel' hlow] at hline
      exact ⟨line, hline, hraw⟩

/-- The variables that the entries of an object declare stand where the entries stand. -/
theorem stateOfEntries_standsOn {lines : List String} {start offset : Nat} :
    ∀ v ∈ stateOfEntries (objectEntries lines start) offset, v.StandsOn lines offset := by
  intro v hv
  obtain ⟨entry, hentry, rfl⟩ := List.mem_map.mp hv
  obtain ⟨line, hline, hraw⟩ := raw_of_objectEntries hentry
  have htrimmed := (isInfix_trim _).trans
    (isPrefix_dropTail (fun c => c == ',') entry.raw.toList).isInfix
  exact StateVariable.standsOn_of_raw hline rfl (htrimmed.trans hraw) (by dsimp only)

/-- The variables of a component in the manner of React stand on the lines of its body. -/
theorem React.stateOf_standsOn {body : List String} {offset : Nat} {style : React.Style} :
    ∀ v ∈ React.stateOf body offset style, v.StandsOn body offset := by
  intro v hv
  obtain ⟨⟨line, i⟩, hmem, hv⟩ := List.mem_flatMap.mp hv
  have hline := List.mk_mem_zipIdx_iff_getElem?.mp hmem
  dsimp only at hv
  split at hv
  · rename_i m hm
    obtain rfl := List.mem_singleton.mp hv
    exact StateVariable.standsOn_ofText hline (Pattern.group_of_search? hm 3)
  · split at hv
    · exact stateOfEntries_standsOn v hv
    · cases hv

/-- The variables of a component in the manner of Vue stand on the lines of its script. -/
theorem Vue.stateOf_standsOn {script : List String} {offset : Nat} :
    ∀ v ∈ Vue.stateOf script offset, v.StandsOn script offset := by
  intro v hv
  obtain ⟨⟨line, i⟩, hmem, hv⟩ := List.mem_flatMap.mp hv
  have hline := List.mk_mem_zipIdx_iff_getElem?.mp hmem
  rcases List.mem_append.mp hv with hdata | href
  · split at hdata
    · split at hdata
      · exact stateOfEntries_standsOn v hdata
      · cases hdata
    · cases hdata
  · obtain ⟨m, hm, rfl⟩ := List.mem_map.mp href
    have hfound := Option.mem_toList.mp hm
    exact StateVariable.standsOn_ofText hline (Pattern.group_of_search? hfound 2)

namespace Angular

/-- The field on a line: its first value is read from a stretch of the line. -/
theorem raw_of_fieldOn? {line : String} {number : Nat} {v : StateVariable}
    (h : fieldOn? line number = some v) :
    v.line = number ∧ ∃ raw, raw <:+: line.toList ∧ v.initial = readLiteral raw := by
  unfold fieldOn? at h
  split at h
  · cases h
  · obtain ⟨m, hm, rfl⟩ := Option.map_eq_some_iff.mp h
    exact ⟨rfl, (m.group 3).toList, Pattern.group_of_matchStart? hm 3, by dsimp only⟩

/-- The first value of a field is read from a stretch of the line that it stands on. -/
theorem raw_of_fieldsBelow {depth : Int} {below : List (String × Nat)} {v : StateVariable}
    (h : v ∈ fieldsBelow depth below) :
    ∃ line raw, (line, v.line) ∈ below ∧ raw <:+: line.toList ∧ v.initial = readLiteral raw := by
  induction below generalizing depth with
  | nil => cases h
  | cons head rest ih =>
    obtain ⟨line, number⟩ := head
    rw [fieldsBelow] at h
    rcases List.mem_append.mp h with hhere | hrest
    · split at hhere
      · obtain ⟨hnumber, raw, hraw⟩ := raw_of_fieldOn? (Option.mem_toList.mp hhere)
        exact ⟨line, raw, hnumber ▸ List.mem_cons_self, hraw⟩
      · cases hhere
    · obtain ⟨other, raw, hmem, hraw⟩ := ih hrest
      exact ⟨other, raw, List.mem_cons_of_mem _ hmem, hraw⟩

/-- The fields of a class stand on the lines of its body. -/
theorem fieldsBelow_standsOn {body : List String} {offset : Nat} :
    ∀ v ∈ fieldsBelow 0 (body.zipIdx (offset + 1)), v.StandsOn body offset := by
  intro v hv
  obtain ⟨line, raw, hmem, hraw, hinitial⟩ := raw_of_fieldsBelow hv
  obtain ⟨hlow, hline⟩ := List.mk_mem_zipIdx_iff_le_and_getElem?_sub.mp hmem
  exact StateVariable.standsOn_of_raw hline (by omega) hraw hinitial

end Angular

/-- The variables of the components of a file stand on its lines. -/
theorem Family.state_standsOn {family : Family} {path : String} {lines : List String} :
    ∀ c ∈ family.components path lines, ∀ v ∈ c.state, v.StandsOn lines 0 := by
  intro c hc v hv
  cases family with
  | react =>
    obtain ⟨⟨line, i⟩, -, hread⟩ := List.mem_filterMap.mp hc
    obtain ⟨⟨name, style⟩, -, rfl⟩ := Option.map_eq_some_iff.mp hread
    exact (React.stateOf_standsOn v hv).of_slice
  | vue =>
    have hread := Option.mem_toList.mp hc
    unfold Vue.component? at hread
    obtain ⟨⟨first, last⟩, -, hread⟩ := Option.bind_eq_some_iff.mp hread
    cases hread
    exact (Vue.stateOf_standsOn v hv).of_slice
  | angular =>
    obtain ⟨⟨line, i⟩, -, hread⟩ := List.mem_filterMap.mp hc
    dsimp only at hread
    split at hread
    · unfold Angular.component? at hread
      obtain ⟨start, -, hread⟩ := Option.bind_eq_some_iff.mp hread
      obtain ⟨_, -, hread⟩ := Option.bind_eq_some_iff.mp hread
      obtain ⟨_, -, hread⟩ := Option.bind_eq_some_iff.mp hread
      cases hread
      exact (Angular.fieldsBelow_standsOn v hv).of_slice
    · cases hread

end Restack.Outline
