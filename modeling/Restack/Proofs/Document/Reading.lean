import Restack.Proofs.Text.Pieces
import Restack.Proofs.Document.Grammar

/-!
# Reading data documents

Reading a text gives a value if and only if the text is a document with this value. So a text is a
document with one value at most, and what cannot be read is no document.
-/

namespace Restack.Document

open Text (afterPart? afterPart?_eq_some_iff isAsciiDigit isAsciiLetter)

/-- What may follow a value: a blank, a comma, or the end of a list or an object. -/
def endsValue (c : Char) : Bool :=
  isDocumentBlank c || c == ',' || c == ']' || c == '\x7d'

/-- A text that may follow a value. -/
def Follows (rest : List Char) : Prop := ∀ c ∈ rest.head?, endsValue c = true

/-- A result that was mapped comes from one that was there. -/
theorem exists_of_map_eq_ok {α β ε : Type} {f : α → β} {result : Except ε α} {b : β}
    (h : result.map f = .ok b) : ∃ a, result = .ok a ∧ f a = b := by
  cases result with
  | error fault => cases h
  | ok a => exact ⟨a, rfl, Except.ok.inj h⟩

variable {s rest text blanks : List Char} {v : Document} {piece : Piece} {c : Char}

/-- What is passed over are blanks. -/
theorem exists_skipBlanks (s : List Char) :
    ∃ blanks, AllBlank blanks ∧ s = blanks ++ skipBlanks s :=
  ⟨s.takeWhile isDocumentBlank, fun _ hc => List.mem_takeWhile_imp hc,
    List.takeWhile_append_dropWhile.symm⟩

/-- Blanks are passed over up to a character that is none. -/
theorem skipBlanks_append (hblanks : AllBlank blanks)
    (hs : ∀ c ∈ s.head?, isDocumentBlank c = false) : skipBlanks (blanks ++ s) = s := by
  rw [skipBlanks, List.dropWhile_append_of_pos hblanks]
  cases s with
  | nil => rfl
  | cons c s => rw [List.dropWhile_cons_of_neg (by simp [hs c rfl])]

/-- Blanks are passed over up to a sign. -/
theorem skipBlanks_append_sign (hblanks : AllBlank blanks) (hc : isDocumentBlank c = false) :
    skipBlanks (blanks ++ c :: rest) = c :: rest :=
  skipBlanks_append hblanks fun d hd => by cases hd; exact hc

/-- A value may be followed by blanks and a sign that ends it. -/
theorem follows_append (hblanks : AllBlank blanks) (hc : endsValue c = true) (rest : List Char) :
    Follows (blanks ++ c :: rest) := by
  cases blanks with
  | nil =>
    rintro _ ⟨⟩
    exact hc
  | cons b blanks =>
    rintro _ ⟨⟩
    rw [endsValue, hblanks b List.mem_cons_self]
    rfl

/-- No number goes on where a value ends. -/
theorem Follows.goesOn_eq_false (h : Follows rest) : ∀ c ∈ rest.head?, goesOn c = false := by
  intro c hc
  have hend := h c hc
  simp only [endsValue, isDocumentBlank, Bool.or_eq_true, beq_iff_eq] at hend
  rcases hend with (((((rfl | rfl) | rfl) | rfl) | rfl) | rfl) | rfl <;> rfl

/-- What is read as a word or a number spells the value, and stood in front. -/
theorem exists_of_readScalar (h : readScalar s = .ok (v, rest)) :
    ∃ text, Spells text (.value v) ∧ s = text ++ rest := by
  unfold readScalar at h
  split at h
  · rename_i found hfound
    cases h
    obtain ⟨⟨word, value⟩, hmem, hword⟩ := List.exists_of_findSome?_eq_some hfound
    obtain ⟨after, hafter, heq⟩ := Option.map_eq_some_iff.mp hword
    cases heq
    exact ⟨word, .word hmem, afterPart?_eq_some_iff.mp hafter⟩
  · obtain ⟨text, hnumber, hs⟩ := exists_of_readNumber h
    exact ⟨text, .number hnumber, hs⟩

/-- A word is read as its value. -/
theorem readScalar_word {word : List Char} (h : (word, v) ∈ wordValues) (rest : List Char) :
    readScalar (word ++ rest) = .ok (v, rest) := by
  simp only [wordValues_eq, List.mem_cons, List.not_mem_nil, or_false, Prod.mk.injEq] at h
  rcases h with ⟨rfl, rfl⟩ | ⟨rfl, rfl⟩ | ⟨rfl, rfl⟩ | ⟨rfl, rfl⟩ | ⟨rfl, rfl⟩ | ⟨rfl, rfl⟩ <;> rfl

/-- A number is not taken for a word. -/
theorem readScalar_number (h : SpellsNumber text v) (hrest : Follows rest) :
    readScalar (text ++ rest) = .ok (v, rest) := by
  obtain ⟨negative, d, more, htext, hd⟩ := h.exists_digit
  have hdigit := Text.toNat_of_isAsciiDigit hd
  have hword : ∀ word ∈ wordValues, afterPart? word.1 (text ++ rest) = none := by
    rintro ⟨word, value⟩ hmem
    obtain ⟨minus, c, letters, rfl, hc⟩ := exists_letter_of_word hmem
    have hletter := Text.toNat_of_isAsciiLetter hc
    have hne : d ≠ c := by
      rintro rfl
      omega
    rw [Option.eq_none_iff_forall_ne_some]
    intro after hafter
    have hsplit := afterPart?_eq_some_iff.mp hafter
    rw [htext] at hsplit
    -- With a minus before both or before neither, the digit would be the letter.
    cases negative <;> cases minus
    · exact hne (List.cons.inj hsplit).1
    · rw [(List.cons.inj hsplit).1] at hd
      cases hd
    · rw [← (List.cons.inj hsplit).1] at hc
      cases hc
    · exact hne (List.cons.inj (List.cons.inj hsplit).2).1
  have hnone : wordValues.findSome? (fun word =>
      (afterPart? word.1 (text ++ rest)).map fun rest => (word.2, rest)) = none :=
    List.findSome?_eq_none_iff.mpr fun word hmem => by rw [hword word hmem]; rfl
  rw [readScalar, hnone]
  exact h.readNumber_eq hrest.goesOn_eq_false

/-- What is left after blanks stood behind them. -/
theorem eq_of_skipBlanks {after : List Char} (h : skipBlanks s = after) :
    ∃ blanks, AllBlank blanks ∧ s = blanks ++ after :=
  h ▸ exists_skipBlanks s

/-- With this fuel, reading goes to the end of what stands for a value, for the items of a list or
for the fields of an object. -/
structure ReadsPieces (fuel : Nat) : Prop where
  value : ∀ {s rest : List Char} {v : Document}, readValue fuel s = .ok (v, rest) →
    ∃ text, Spells text (.value v) ∧ s = text ++ rest
  items : ∀ {done : List Document} {s rest : List Char} {items : List Document},
    readItems fuel done s = .ok (items, rest) →
      ∃ text more, Spells text (.items more) ∧ s = text ++ ']' :: rest ∧
        items = done.reverse ++ more
  fields : ∀ {done : List (Str × Document)} {s rest : List Char} {entries : List (Str × Document)},
    readFields fuel done s = .ok (entries, rest) →
      ∃ text more, Spells text (.fields more) ∧ s = text ++ '\x7d' :: rest ∧
        entries = done.reverse ++ more

namespace ReadsPieces

variable {fuel : Nat}

/-- A value that is read is spelled by what was passed over, as long as this holds of the pieces
within it. -/
theorem readValue_succ (ih : ReadsPieces fuel) (h : readValue (fuel + 1) s = .ok (v, rest)) :
    ∃ text, Spells text (.value v) ∧ s = text ++ rest := by
  rw [readValue.eq_def] at h
  dsimp only at h
  split at h
  · cases h
  · split at h
    · rename_i hmark
      obtain ⟨⟨read, behind⟩, hread, heq⟩ := exists_of_map_eq_ok h
      cases heq
      obtain ⟨text, spelled, hstring, rfl, rfl⟩ := exists_of_readString hread
      exact ⟨_, .str hstring, by simp [beq_iff_eq.mp hmark]⟩
    · split at h
      · rename_i hbrace
        rw [beq_iff_eq.mp hbrace]
        split at h
        · rename_i hskip
          cases h
          obtain ⟨blanks, hblanks, rfl⟩ := eq_of_skipBlanks hskip
          exact ⟨_, .emptyObject hblanks, by simp⟩
        · obtain ⟨⟨entries, behind⟩, hread, heq⟩ := exists_of_map_eq_ok h
          cases heq
          obtain ⟨text, more, hmore, hskip, rfl⟩ := ih.fields hread
          obtain ⟨blanks, hblanks, rfl⟩ := eq_of_skipBlanks hskip
          exact ⟨_, .object hblanks hmore, by simp⟩
      · split at h
        · rename_i hbracket
          rw [beq_iff_eq.mp hbracket]
          split at h
          · rename_i hskip
            cases h
            obtain ⟨blanks, hblanks, rfl⟩ := eq_of_skipBlanks hskip
            exact ⟨_, .emptyList hblanks, by simp⟩
          · obtain ⟨⟨items, behind⟩, hread, heq⟩ := exists_of_map_eq_ok h
            cases heq
            obtain ⟨text, more, hmore, hskip, rfl⟩ := ih.items hread
            obtain ⟨blanks, hblanks, rfl⟩ := eq_of_skipBlanks hskip
            exact ⟨_, .list hblanks hmore, by simp⟩
        · exact exists_of_readScalar h

/-- Items that are read are spelled by what was passed over up to the closing bracket, as long as
this holds of the pieces within them. -/
theorem readItems_succ (ih : ReadsPieces fuel) {done items : List Document}
    (h : readItems (fuel + 1) done s = .ok (items, rest)) :
    ∃ text more, Spells text (.items more) ∧ s = text ++ ']' :: rest ∧
      items = done.reverse ++ more := by
  rw [readItems] at h
  split at h
  · cases h
  · rename_i item behind hitem
    obtain ⟨text, hspells, rfl⟩ := ih.value hitem
    split at h
    · rename_i hskip
      cases h
      obtain ⟨blanks, hblanks, rfl⟩ := eq_of_skipBlanks hskip
      exact ⟨_, [item], .lastItem hspells hblanks, by simp, by simp⟩
    · rename_i hskip
      obtain ⟨before, hbefore, rfl⟩ := eq_of_skipBlanks hskip
      obtain ⟨more, others, hmore, hskip, rfl⟩ := ih.items h
      obtain ⟨behind, hbehind, rfl⟩ := eq_of_skipBlanks hskip
      exact ⟨_, item :: others, .moreItems hspells hbefore hbehind hmore, by simp, by simp⟩
    · cases h

/-- Fields that are read are spelled by what was passed over up to the closing brace, as long as
this holds of the pieces within them. -/
theorem readFields_succ (ih : ReadsPieces fuel) {done entries : List (Str × Document)}
    (h : readFields (fuel + 1) done s = .ok (entries, rest)) :
    ∃ text more, Spells text (.fields more) ∧ s = text ++ '\x7d' :: rest ∧
      entries = done.reverse ++ more := by
  rw [readFields.eq_def] at h
  dsimp only at h
  split at h
  · split at h
    · cases h
    · rename_i key behind hkey
      obtain ⟨name, spelled, hname, rfl, rfl⟩ := exists_of_readString hkey
      split at h
      · rename_i hskip
        obtain ⟨before, hbefore, rfl⟩ := eq_of_skipBlanks hskip
        split at h
        · cases h
        · rename_i hvalue
          obtain ⟨text, hspells, hskip⟩ := ih.value hvalue
          obtain ⟨behind, hbehind, rfl⟩ := eq_of_skipBlanks hskip
          have hfield := Spells.field hname hbefore hbehind hspells
          split at h
          · rename_i hskip
            cases h
            obtain ⟨blanks, hblanks, rfl⟩ := eq_of_skipBlanks hskip
            exact ⟨_, _, .lastField hfield hblanks, by simp, by simp⟩
          · rename_i hskip
            obtain ⟨before, hbefore, rfl⟩ := eq_of_skipBlanks hskip
            obtain ⟨more, others, hmore, hskip, rfl⟩ := ih.fields h
            obtain ⟨behind, hbehind, rfl⟩ := eq_of_skipBlanks hskip
            exact ⟨_, _, .moreFields hfield hbefore hbehind hmore, by simp, by simp⟩
          · cases h
      · cases h
  · cases h

end ReadsPieces

/-- However often the reader may call itself, what it reads is spelled by what it passed over. -/
theorem readsPieces (fuel : Nat) : ReadsPieces fuel := by
  induction fuel with
  | zero => exact ⟨nofun, nofun, nofun⟩
  | succ fuel ih => exact ⟨ih.readValue_succ, ih.readItems_succ, ih.readFields_succ⟩

/-- The blanks before a piece are skipped, and none of its own signs. -/
theorem Spells.skipBlanks_eq (h : Spells text piece) (hblanks : AllBlank blanks)
    (rest : List Char) : skipBlanks (blanks ++ (text ++ rest)) = text ++ rest := by
  obtain ⟨c, more, rfl, hc⟩ := h.exists_cons
  simp only [beginsPiece, Bool.and_eq_true, Bool.not_eq_true'] at hc
  exact skipBlanks_append_sign hblanks hc.1.1.1

section Signs

variable {fuel : Nat} {before behind : List Char}

/-- What begins with a sign, a letter or a digit is read as a word or a number. -/
theorem readValue_scalar {d : Char} (hd : isAsciiLetter d = true ∨ isAsciiDigit d = true)
    (negative : Bool) (more rest : List Char) :
    readValue (fuel + 1) (Number.minusIf negative ++ d :: more ++ rest) =
      readScalar (Number.minusIf negative ++ d :: more ++ rest) := by
  obtain ⟨c, others, heq, -, hc⟩ := exists_cons_of_scalar hd negative more
  simp only [opensPiece, Bool.or_eq_false_iff] at hc
  rw [heq, List.cons_append, readValue.eq_def]
  dsimp only
  rw [hc.1.1, hc.1.2, hc.2]
  rfl

/-- A text between quotes is read as it is spelled. -/
theorem readValue_string {spelled : List Symbol} (hstring : SpellsString text spelled)
    (rest : List Char) :
    readValue (fuel + 1) ('\x22' :: (text ++ '\x22' :: rest)) =
      .ok (.str ⟨spelled⟩, rest) := by
  have hfuel : text.length < (text ++ '\x22' :: rest).length + 1 := by
    rw [List.length_append]
    omega
  have hread := hstring.readString_eq ('\x22' :: (text ++ '\x22' :: rest)) rest [] hfuel
  rw [readValue.eq_def]
  dsimp only
  rw [if_pos (by rfl), hread]
  rfl

/-- Brackets with blanks in between are read as an empty list. -/
theorem readValue_emptyList (hblanks : AllBlank blanks) (rest : List Char) :
    readValue (fuel + 1) ('[' :: (blanks ++ ']' :: rest)) = .ok (.list [], rest) := by
  rw [readValue.eq_def]
  dsimp only
  rw [if_neg (by decide), if_neg (by decide), if_pos (by rfl),
    skipBlanks_append_sign hblanks (by decide)]
  rfl

/-- Braces with blanks in between are read as an empty object. -/
theorem readValue_emptyObject (hblanks : AllBlank blanks) (rest : List Char) :
    readValue (fuel + 1) ('\x7b' :: (blanks ++ '\x7d' :: rest)) = .ok (.object [], rest) := by
  rw [readValue.eq_def]
  dsimp only
  rw [if_neg (by decide), if_pos (by rfl), skipBlanks_append_sign hblanks (by decide)]
  rfl

/-- A list is read as its items are. -/
theorem readValue_list {items : List Document} (hblanks : AllBlank blanks)
    (hitems : Spells text (.items items))
    (hread : readItems fuel [] (text ++ ']' :: rest) = .ok (items, rest)) :
    readValue (fuel + 1) ('[' :: (blanks ++ (text ++ ']' :: rest))) = .ok (.list items, rest) := by
  rw [readValue.eq_def]
  dsimp only
  rw [if_neg (by decide), if_neg (by decide), if_pos (by rfl), hitems.skipBlanks_eq hblanks]
  split
  · rename_i after hclosed
    obtain ⟨c, more, rfl, hc⟩ := hitems.exists_cons
    rw [(List.cons.inj hclosed).1] at hc
    cases hc
  · rw [hread]
    rfl

/-- An object is read as its fields are. -/
theorem readValue_object {entries : List (Str × Document)} (hblanks : AllBlank blanks)
    (hfields : Spells text (.fields entries))
    (hread : readFields fuel [] (text ++ '\x7d' :: rest) = .ok (entries, rest)) :
    readValue (fuel + 1) ('\x7b' :: (blanks ++ (text ++ '\x7d' :: rest))) =
      .ok (.object (Value.ofEntries entries), rest) := by
  rw [readValue.eq_def]
  dsimp only
  rw [if_neg (by decide), if_pos (by rfl), hfields.skipBlanks_eq hblanks]
  split
  · rename_i after hclosed
    obtain ⟨c, more, rfl, hc⟩ := hfields.exists_cons
    rw [(List.cons.inj hclosed).1] at hc
    cases hc
  · rw [hread]
    rfl

/-- The last item is followed by the closing bracket. -/
theorem readItems_last (hblanks : AllBlank blanks)
    (hread : readValue fuel s = .ok (v, blanks ++ ']' :: rest)) (done : List Document) :
    readItems (fuel + 1) done s = .ok ((v :: done).reverse, rest) := by
  rw [readItems, hread]
  dsimp only
  rw [skipBlanks_append_sign hblanks (by decide)]
  rfl

/-- An item that a comma follows is followed by further ones. -/
theorem readItems_more (hbefore : AllBlank before)
    (hread : readValue fuel s = .ok (v, before ++ ',' :: rest)) (done : List Document) :
    readItems (fuel + 1) done s = readItems fuel (v :: done) (skipBlanks rest) := by
  rw [readItems, hread]
  dsimp only
  rw [skipBlanks_append_sign hbefore (by decide)]
  rfl

/-- What comes behind a field: the end of the object or another field. -/
def readBehindField (fuel : Nat) (done : List (Str × Document)) (rest : List Char) :
    Part (List (Str × Document)) :=
  match skipBlanks rest with
  | '\x7d' :: after => .ok (done.reverse, after)
  | ',' :: after => readFields fuel done (skipBlanks after)
  | other => .error (.commaExpected, other)

/-- A field is read as its key and its value are. -/
theorem readFields_field {name : List Char} {spelled : List Symbol}
    (hname : SpellsString name spelled) (hbefore : AllBlank before) (hbehind : AllBlank behind)
    (hvalue : Spells text (.value v))
    (hread : readValue fuel (text ++ rest) = .ok (v, rest)) (done : List (Str × Document)) :
    readFields (fuel + 1) done
        ('\x22' :: (name ++ '\x22' :: (before ++ ':' :: (behind ++ (text ++ rest))))) =
      readBehindField fuel ((⟨spelled⟩, v) :: done) rest := by
  have hfuel : name.length <
      (name ++ '\x22' :: (before ++ ':' :: (behind ++ (text ++ rest)))).length + 1 := by
    rw [List.length_append]
    omega
  have hkey := hname.readString_eq
    ('\x22' :: (name ++ '\x22' :: (before ++ ':' :: (behind ++ (text ++ rest)))))
    (before ++ ':' :: (behind ++ (text ++ rest))) [] hfuel
  rw [readFields, hkey]
  dsimp only
  rw [skipBlanks_append_sign hbefore (by decide)]
  simp only
  rw [hvalue.skipBlanks_eq hbehind, hread]
  rfl

/-- The last field is followed by the closing brace. -/
theorem readBehindField_last (hblanks : AllBlank blanks) (done : List (Str × Document)) :
    readBehindField fuel done (blanks ++ '\x7d' :: rest) = .ok (done.reverse, rest) := by
  rw [readBehindField, skipBlanks_append_sign hblanks (by decide)]
  rfl

/-- A field that a comma follows is followed by further ones. -/
theorem readBehindField_more (hblanks : AllBlank blanks) (done : List (Str × Document)) :
    readBehindField fuel done (blanks ++ ',' :: rest) = readFields fuel done (skipBlanks rest) := by
  rw [readBehindField, skipBlanks_append_sign hblanks (by decide)]
  rfl

end Signs

/-- Whether a piece is read from its text up to what follows, given fuel for every sign of it. -/
def Piece.IsReadFrom (text : List Char) : Piece → Prop
  | .value v => ∀ {fuel : Nat} {rest : List Char}, 2 * text.length ≤ fuel + 1 → Follows rest →
    readValue (fuel + 1) (text ++ rest) = .ok (v, rest)
  | .items values => ∀ {fuel : Nat} (done : List Document) (rest : List Char),
    2 * text.length ≤ fuel →
    readItems (fuel + 1) done (text ++ ']' :: rest) = .ok (done.reverse ++ values, rest)
  | .field key v => ∀ {fuel : Nat} (done : List (Str × Document)) {rest : List Char},
    2 * text.length ≤ fuel → Follows rest →
      readFields (fuel + 1) done (text ++ rest) = readBehindField fuel ((key, v) :: done) rest
  | .fields entries => ∀ {fuel : Nat} (done : List (Str × Document)) (rest : List Char),
    2 * text.length ≤ fuel →
      readFields (fuel + 1) done (text ++ '\x7d' :: rest) = .ok (done.reverse ++ entries, rest)

/-- Each piece is read from what spells it, by induction on the spelling. -/
theorem Spells.isReadFrom (h : Spells text piece) : piece.IsReadFrom text := by
  induction h with
  | word hword =>
    intro fuel rest _ _
    rw [← readScalar_word hword rest]
    obtain ⟨negative, d, more, rfl, hd⟩ := exists_letter_of_word hword
    exact readValue_scalar (.inl hd) negative more rest
  | number hnumber =>
    intro fuel rest _ hrest
    rw [← readScalar_number hnumber hrest]
    obtain ⟨negative, d, more, rfl, hd⟩ := hnumber.exists_digit
    exact readValue_scalar (.inr hd) negative more rest
  | str hstring =>
    intro fuel rest _ _
    simpa using readValue_string hstring rest
  | emptyList hblanks =>
    intro fuel rest _ _
    simpa using readValue_emptyList hblanks rest
  | emptyObject hblanks =>
    intro fuel rest _ _
    simpa using readValue_emptyObject hblanks rest
  | @list blanks text items hblanks hitems ih =>
    intro fuel rest hfuel _
    simp only [List.length_cons, List.length_append] at hfuel
    obtain ⟨fuel, rfl⟩ : ∃ k, fuel = k + 1 := ⟨fuel - 1, by omega⟩
    simpa using readValue_list hblanks hitems (ih [] rest (by omega))
  | @object blanks text entries hblanks hfields ih =>
    intro fuel rest hfuel _
    simp only [List.length_cons, List.length_append] at hfuel
    obtain ⟨fuel, rfl⟩ : ∃ k, fuel = k + 1 := ⟨fuel - 1, by omega⟩
    simpa using readValue_object hblanks hfields (ih [] rest (by omega))
  | @lastItem text blanks v hitem hblanks ih =>
    intro fuel done rest hfuel
    have hpos := hitem.length_pos
    rw [List.length_append] at hfuel
    obtain ⟨fuel, rfl⟩ : ∃ k, fuel = k + 1 := ⟨fuel - 1, by omega⟩
    have hread := ih (by omega : 2 * text.length ≤ fuel + 1)
      (follows_append hblanks (by decide : endsValue ']' = true) rest)
    simpa using readItems_last hblanks hread done
  | @moreItems text before behind more v items hitem hbefore hbehind hmore ih ihMore =>
    intro fuel done rest hfuel
    simp only [List.length_cons, List.length_append] at hfuel
    obtain ⟨fuel, rfl⟩ : ∃ k, fuel = k + 1 := ⟨fuel - 1, by omega⟩
    have hfollows := follows_append hbefore (by decide : endsValue ',' = true)
      (behind ++ (more ++ ']' :: rest))
    have hread := ih (by omega : 2 * text.length ≤ fuel + 1) hfollows
    have hrest := ihMore (v :: done) rest (by omega : 2 * more.length ≤ fuel)
    rw [List.append_assoc, List.append_assoc, List.cons_append, List.append_assoc,
      readItems_more hbefore hread, hmore.skipBlanks_eq hbehind, hrest]
    simp
  | @field name before behind text spelled v hname hbefore hbehind hvalue ih =>
    intro fuel done rest hfuel hrest
    simp only [List.length_cons, List.length_append] at hfuel
    obtain ⟨fuel, rfl⟩ : ∃ k, fuel = k + 1 := ⟨fuel - 1, by omega⟩
    have hread := ih (by omega : 2 * text.length ≤ fuel + 1) hrest
    simpa using readFields_field hname hbefore hbehind hvalue hread done
  | @lastField text blanks key v hfield hblanks ih =>
    intro fuel done rest hfuel
    rw [List.length_append] at hfuel
    have hread := ih done (by omega : 2 * text.length ≤ fuel)
      (follows_append hblanks (by decide : endsValue '\x7d' = true) rest)
    rw [List.append_assoc, hread, readBehindField_last hblanks]
    simp
  | @moreFields text before behind more key v entries hfield hbefore hbehind hmore ih ihMore =>
    intro fuel done rest hfuel
    simp only [List.length_cons, List.length_append] at hfuel
    obtain ⟨fuel, rfl⟩ : ∃ k, fuel = k + 1 := ⟨fuel - 1, by omega⟩
    have hfollows := follows_append hbefore (by decide : endsValue ',' = true)
      (behind ++ (more ++ '\x7d' :: rest))
    have hread := ih done (by omega : 2 * text.length ≤ fuel + 1) hfollows
    have hrest := ihMore ((key, v) :: done) rest (by omega : 2 * more.length ≤ fuel)
    rw [List.append_assoc, List.append_assoc, List.cons_append, List.append_assoc, hread,
      readBehindField_more hbefore, hmore.skipBlanks_eq hbehind, hrest]
    simp

/-- A text is read as a value exactly if it is a document of it. -/
theorem readDocument_eq_ok_iff : readDocument text = .ok v ↔ IsDocument text v := by
  constructor
  · intro h
    unfold readDocument at h
    split at h
    · cases h
    · split at h
      · cases h
      · rename_i hread
        obtain ⟨t, hvalue, hskip⟩ := (readsPieces _).value hread
        obtain ⟨before, hbefore, rfl⟩ := eq_of_skipBlanks hskip
        split at h
        · rename_i hskip
          cases h
          obtain ⟨behind, hbehind, rfl⟩ := eq_of_skipBlanks hskip
          rw [List.append_nil]
          exact .intro hbefore hvalue hbehind
        · cases h
  · intro h
    have hhead := h.head?_ne
    cases h with
    | @intro before text behind v hbefore hvalue hbehind =>
      have hread : readValue (2 * (before ++ (text ++ behind)).length + 2) (text ++ behind) =
          .ok (v, behind) := by
        refine hvalue.isReadFrom (by simp only [List.length_append]; omega) fun c hc => ?_
        rw [endsValue, hbehind c (List.mem_of_mem_head? hc)]
        rfl
      have hend : skipBlanks behind = [] := by
        have hskip : skipBlanks (behind ++ []) = [] := skipBlanks_append hbehind nofun
        rwa [List.append_nil] at hskip
      unfold readDocument
      split
      · rename_i hmark
        exact absurd (congrArg List.head? hmark) hhead
      · rw [hvalue.skipBlanks_eq hbefore, hread]
        dsimp only
        rw [hend]

/-- Reading a text gives a value if and only if the text is a document with this value. -/
theorem read_eq_ok_iff {text : String} : read text = .ok v ↔ IsDocument text.toList v := by
  rw [← readDocument_eq_ok_iff, read]
  cases readDocument text.toList with
  | ok value => simp
  | error complaint => simp

/-- A text that cannot be read is no document. -/
theorem exists_read_eq_error_iff {text : String} :
    (∃ flaw, read text = .error flaw) ↔ ∀ v, ¬IsDocument text.toList v := by
  simp only [← read_eq_ok_iff]
  cases read text with
  | ok value => simp
  | error flaw => simp

end Restack.Document
