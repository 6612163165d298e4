import Restack.Proofs.Value.Entries
import Restack.Proofs.Document.Numbers
import Restack.Proofs.Document.Strings

/-!
# Data documents

The grammar of data documents, without regard to how they are read: words, numbers, strings, lists
and objects, with blanks between their signs. The objects in a document have one field for each key.
-/

namespace Restack.Document

open Text (isAsciiDigit isAsciiLetter)

/-- Nothing but blanks of a document. -/
def AllBlank (s : List Char) : Prop := ∀ c ∈ s, isDocumentBlank c = true

/-- What a stretch of a document stands for. -/
inductive Piece where
  /-- A value. -/
  | value (v : Document)
  /-- The items of a list from one of them on. -/
  | items (items : List Document)
  /-- A field of an object. -/
  | field (key : Str) (v : Document)
  /-- The fields of an object from one of them on, as they are set. -/
  | fields (entries : List (Str × Document))

/-- A stretch of a document and what it stands for. -/
inductive Spells : List Char → Piece → Prop where
  | word {word : List Char} {v : Document} (hword : (word, v) ∈ wordValues) : Spells word (.value v)
  | number {text : List Char} {v : Document} (hnumber : SpellsNumber text v) :
    Spells text (.value v)
  | str {text : List Char} {spelled : List Symbol} (hstring : SpellsString text spelled) :
    Spells ('\x22' :: (text ++ ['\x22'])) (.value (.str ⟨spelled⟩))
  | emptyList {blanks : List Char} (hblanks : AllBlank blanks) :
    Spells ('[' :: (blanks ++ [']'])) (.value (.list []))
  | list {blanks text : List Char} {items : List Document} (hblanks : AllBlank blanks)
    (hitems : Spells text (.items items)) :
    Spells ('[' :: (blanks ++ (text ++ [']']))) (.value (.list items))
  | emptyObject {blanks : List Char} (hblanks : AllBlank blanks) :
    Spells ('\x7b' :: (blanks ++ ['\x7d'])) (.value (.object []))
  | object {blanks text : List Char} {entries : List (Str × Document)} (hblanks : AllBlank blanks)
    (hfields : Spells text (.fields entries)) :
    Spells ('\x7b' :: (blanks ++ (text ++ ['\x7d']))) (.value (.object (Value.ofEntries entries)))
  | lastItem {text blanks : List Char} {v : Document} (hitem : Spells text (.value v))
    (hblanks : AllBlank blanks) : Spells (text ++ blanks) (.items [v])
  | moreItems {text before behind more : List Char} {v : Document} {items : List Document}
    (hitem : Spells text (.value v)) (hbefore : AllBlank before) (hbehind : AllBlank behind)
    (hmore : Spells more (.items items)) :
    Spells (text ++ (before ++ ',' :: (behind ++ more))) (.items (v :: items))
  | field {name before behind text : List Char} {spelled : List Symbol} {v : Document}
    (hname : SpellsString name spelled) (hbefore : AllBlank before) (hbehind : AllBlank behind)
    (hvalue : Spells text (.value v)) :
    Spells ('\x22' :: (name ++ '\x22' :: (before ++ ':' :: (behind ++ text))))
      (.field ⟨spelled⟩ v)
  | lastField {text blanks : List Char} {key : Str} {v : Document}
    (hfield : Spells text (.field key v)) (hblanks : AllBlank blanks) :
    Spells (text ++ blanks) (.fields [(key, v)])
  | moreFields {text before behind more : List Char} {key : Str} {v : Document}
    {entries : List (Str × Document)} (hfield : Spells text (.field key v))
    (hbefore : AllBlank before) (hbehind : AllBlank behind)
    (hmore : Spells more (.fields entries)) :
    Spells (text ++ (before ++ ',' :: (behind ++ more))) (.fields ((key, v) :: entries))

/-- A text that is a document with a value: the value between blanks. -/
inductive IsDocument : List Char → Document → Prop where
  | intro {before text behind : List Char} {v : Document} (hbefore : AllBlank before)
    (hvalue : Spells text (.value v)) (hbehind : AllBlank behind) :
    IsDocument (before ++ (text ++ behind)) v

variable {s rest text blanks : List Char} {v : Document} {piece : Piece} {c : Char}

/-- The words, letter by letter. -/
theorem wordValues_eq :
    wordValues = [(['n', 'u', 'l', 'l'], .null), (['t', 'r', 'u', 'e'], .bool true),
      (['f', 'a', 'l', 's', 'e'], .bool false), (['N', 'a', 'N'], .float (0.0 / 0.0)),
      (['I', 'n', 'f', 'i', 'n', 'i', 't', 'y'], .float (1.0 / 0.0)),
      (['-', 'I', 'n', 'f', 'i', 'n', 'i', 't', 'y'], .float (-1.0 / 0.0))] :=
  rfl

/-- A word begins with a letter, or with a minus and a letter. -/
theorem exists_letter_of_word {word : List Char} (h : (word, v) ∈ wordValues) :
    ∃ negative d more, word = Number.minusIf negative ++ d :: more ∧ isAsciiLetter d = true := by
  simp only [wordValues_eq, List.mem_cons, List.not_mem_nil, or_false, Prod.mk.injEq] at h
  rcases h with ⟨rfl, -⟩ | ⟨rfl, -⟩ | ⟨rfl, -⟩ | ⟨rfl, -⟩ | ⟨rfl, -⟩ | ⟨rfl, -⟩
  · exact ⟨false, 'n', _, rfl, rfl⟩
  · exact ⟨false, 't', _, rfl, rfl⟩
  · exact ⟨false, 'f', _, rfl, rfl⟩
  · exact ⟨false, 'N', _, rfl, rfl⟩
  · exact ⟨false, 'I', _, rfl, rfl⟩
  · exact ⟨true, 'I', _, rfl, rfl⟩

/-- A number begins with a digit, or with a minus and a digit. -/
theorem SpellsNumber.exists_digit (h : SpellsNumber text v) :
    ∃ negative d more, text = Number.minusIf negative ++ d :: more ∧ isAsciiDigit d = true := by
  cases h with
  | @whole negative whole hwhole hfew =>
    obtain ⟨d, others, rfl⟩ := List.exists_cons_of_ne_nil hwhole.ne_nil
    exact ⟨negative, d, others, rfl, hwhole.digits d List.mem_cons_self⟩
  | @float negative whole fraction decimals exponent e hwhole =>
    obtain ⟨d, others, rfl⟩ := List.exists_cons_of_ne_nil hwhole.ne_nil
    exact ⟨negative, d, _, rfl, hwhole.digits d List.mem_cons_self⟩

/-- What pieces of a document begin with: no blank, neither end of a list or an object, and no byte
order mark. -/
def beginsPiece (c : Char) : Bool :=
  !isDocumentBlank c && c != ']' && c != '\x7d' && c != '\ufeff'

/-- The signs that strings, lists and objects begin with. -/
def opensPiece (c : Char) : Bool :=
  c == '\x22' || c == '\x7b' || c == '['

/-- A word or a number does not begin like a string, a list or an object. -/
theorem exists_cons_of_scalar {d : Char} (hd : isAsciiLetter d = true ∨ isAsciiDigit d = true)
    (negative : Bool) (more : List Char) :
    ∃ c others, Number.minusIf negative ++ d :: more = c :: others ∧ beginsPiece c = true ∧
      opensPiece c = false := by
  cases negative with
  | true => exact ⟨'-', _, rfl, rfl, rfl⟩
  | false =>
    have hcode : (48 ≤ d.toNat ∧ d.toNat ≤ 57) ∨ (97 ≤ d.toNat ∧ d.toNat ≤ 122) ∨
        65 ≤ d.toNat ∧ d.toNat ≤ 90 :=
      hd.symm.imp Text.toNat_of_isAsciiDigit Text.toNat_of_isAsciiLetter
    have hne : ∀ c : Char, c.toNat < 48 ∨ 90 < c.toNat ∧ c.toNat < 97 ∨ 122 < c.toNat → d ≠ c := by
      rintro c hc rfl
      omega
    exact ⟨d, more, rfl, by simp [beginsPiece, isDocumentBlank, hne], by simp [opensPiece, hne]⟩

/-- What spells a piece begins with a character that pieces begin with. -/
theorem Spells.exists_cons (h : Spells text piece) :
    ∃ c more, text = c :: more ∧ beginsPiece c = true := by
  induction h with
  | word hword =>
    obtain ⟨negative, d, more, rfl, hd⟩ := exists_letter_of_word hword
    obtain ⟨c, others, heq, hc, -⟩ := exists_cons_of_scalar (.inl hd) negative more
    exact ⟨c, others, heq, hc⟩
  | number hnumber =>
    obtain ⟨negative, d, more, rfl, hd⟩ := hnumber.exists_digit
    obtain ⟨c, others, heq, hc, -⟩ := exists_cons_of_scalar (.inr hd) negative more
    exact ⟨c, others, heq, hc⟩
  | lastItem _ _ ih | moreItems _ _ _ _ ih | lastField _ _ ih | moreFields _ _ _ _ ih =>
    obtain ⟨c, more, rfl, hc⟩ := ih
    exact ⟨c, _, rfl, hc⟩
  | str | emptyList | list | emptyObject | object | field => exact ⟨_, _, rfl, rfl⟩

/-- Nothing is spelled by an empty text. -/
theorem Spells.length_pos (h : Spells text piece) : 0 < text.length := by
  obtain ⟨c, more, rfl, -⟩ := h.exists_cons
  exact Nat.succ_pos _

/-- A document begins with no byte order mark. -/
theorem IsDocument.head?_ne (h : IsDocument text v) : text.head? ≠ some '\ufeff' := by
  cases h with
  | @intro before text behind v hbefore hvalue hbehind =>
    intro hhead
    cases before with
    | nil =>
      obtain ⟨c, more, rfl, hc⟩ := hvalue.exists_cons
      cases hhead
      cases hc
    | cons b before =>
      have hb := hbefore b List.mem_cons_self
      cases hhead
      cases hb

section Fields

variable {key : Str} {fields entries : List (Str × Document)}

/-- The value of a field is spelled within the field. -/
theorem Spells.exists_value_of_field (h : Spells text (.field key v)) :
    ∃ text, Spells text (.value v) := by
  cases h with
  | field _ _ _ hvalue => exact ⟨_, hvalue⟩

/-- Each field that is set has a value of the document. -/
theorem Spells.exists_value_of_mem (h : Spells text (.fields entries)) :
    ∀ entry ∈ entries, ∃ text, Spells text (.value entry.2) := by
  generalize hpiece : Piece.fields entries = piece at h
  induction h generalizing entries with
  | lastField hfield _ =>
    cases hpiece
    exact List.forall_mem_singleton.mpr hfield.exists_value_of_field
  | moreFields hfield _ _ _ _ ih =>
    cases hpiece
    exact List.forall_mem_cons.mpr ⟨hfield.exists_value_of_field, ih rfl⟩
  | _ => cases hpiece

/-- An object is what its fields leave when they are set in turn. -/
theorem Spells.exists_entries (h : Spells text (.value (.object fields))) :
    ∃ entries, fields = Value.ofEntries entries ∧
      ∀ entry ∈ entries, ∃ text, Spells text (.value entry.2) := by
  cases h with
  | word hword => simp [wordValues_eq] at hword
  | number hnumber => cases hnumber
  | emptyObject => exact ⟨[], rfl, nofun⟩
  | object _ hfields => exact ⟨_, rfl, hfields.exists_value_of_mem⟩

/-- The keys of an object are distinct, since a key that is set again replaces the former value. -/
theorem Spells.nodup_keys (h : Spells text (.value (.object fields))) :
    (fields.map Prod.fst).Nodup := by
  obtain ⟨entries, rfl, -⟩ := h.exists_entries
  exact Value.nodup_keys_ofEntries entries

/-- An object within an object of a document has one field for each key. -/
theorem IsDocument.nodup_keys (h : IsDocument text (.object fields))
    (hentries : fields.lookup key = some (.object entries)) : (entries.map Prod.fst).Nodup := by
  cases h with
  | intro _ hvalue _ =>
    obtain ⟨set, rfl, hset⟩ := hvalue.exists_entries
    obtain ⟨front, back, hsplit, -⟩ := List.lookup_eq_some_iff.mp hentries
    have hmem : (key, Document.object entries) ∈ Value.ofEntries set := by simp [hsplit]
    obtain ⟨inner, hinner⟩ := hset _ (Value.mem_of_mem_ofEntries hmem)
    exact Spells.nodup_keys hinner

end Fields

end Restack.Document
