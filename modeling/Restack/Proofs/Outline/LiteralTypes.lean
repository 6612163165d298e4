import Restack.Outline.Literal
import Restack.Proofs.Number.Numerals
import Restack.Proofs.Text.Stretches
import Restack.Proofs.Text.Trimming

/-!
# The type of a literal and its value

The type of a literal is told by its text, and where the text is none of the other kinds by whether
it is read as a number. For that it is taken as a raw text once more, so that what stands behind a
literal is taken off twice, while the value is read after doing so once. The two agree except where
this makes a difference: behind a numeral with two groups of commas and semicolons and blanks
between them.
-/

namespace Restack.Outline

open Restack.Text

/-- The commas and semicolons that may stand behind a literal. -/
def isMark (c : Char) : Bool := c == ',' || c == ';'

/-- Some characters in a row, all of one kind. -/
structure IsRun (p : Char → Bool) (s : List Char) : Prop where
  ne_nil : s ≠ []
  forall_mem : ∀ c ∈ s, p c = true

/-- A numeral, blanks around it perhaps, behind which two groups of commas and semicolons stand with
blanks between them. -/
inductive IsMarkedTwice : List Char → Prop where
  | intro {numeral first gap second back : List Char}
    (hnumeral : (readNumeral? (trim numeral)).isSome = true) (hfirst : IsRun isMark first)
    (hgap : IsRun isBlank gap) (hsecond : IsRun isMark second)
    (hback : ∀ c ∈ back, isBlank c = true) :
    IsMarkedTwice (numeral ++ first ++ gap ++ second ++ back)

/-- A type and a value agree: strings, truth values and numbers are told by either, a list or an
object has no value unless it is empty, and what is of no type has none. -/
structure TypeFits (type : String) (value : Value) : Prop where
  string : type = "string" ↔ ∃ s, value = .str s
  boolean : type = "boolean" ↔ ∃ b, value = .bool b
  number : type = "number" ↔ (∃ n, value = .int n) ∨ ∃ x, value = .float x
  array : type = "array" → value = .list [] ∨ value = .null
  object : type = "object" → value = .object [] ∨ value = .null
  any : type = "any" → value = .null

/-- The types and the values that literals have. -/
inductive Told : String → Value → Prop where
  | string (s : String) : Told "string" (.str s)
  | boolean (b : Bool) : Told "boolean" (.bool b)
  | whole (n : Int) : Told "number" (.int n)
  | float (x : Float) : Told "number" (.float x)
  | emptyList : Told "array" (.list [])
  | list : Told "array" .null
  | emptyObject : Told "object" (.object [])
  | object : Told "object" .null
  | any : Told "any" .null

/-- The types and the values that literals have agree. -/
theorem Told.typeFits {type : String} {value : Value} (h : Told type value) :
    TypeFits type value := by
  cases h <;> constructor <;> simp

variable {s raw : List Char}

section Marks

variable {c : Char}

/-- Marks are no blanks. -/
theorem isBlank_of_isMark (h : isMark c = true) : isBlank c = false := by
  simp only [isMark, Bool.or_eq_true, beq_iff_eq] at h
  rcases h with rfl | rfl <;> rfl

/-- Marks are foreign to numerals. -/
theorem isForeign_of_isMark (h : isMark c = true) : Number.isForeign c = true := by
  simp only [isMark, Bool.or_eq_true, beq_iff_eq] at h
  rcases h with rfl | rfl <;> decide

/-- Blanks are no marks. -/
theorem isMark_of_isBlank (h : isBlank c = true) : isMark c = false := by
  by_contra hmark
  have hblank := isBlank_of_isMark (by simpa using hmark)
  rw [h] at hblank
  cases hblank

end Marks

/-- What can be read as a number is what can be read as a float. -/
theorem isSome_readNumeral? (s : List Char) :
    (readNumeral? s).isSome = (Number.readFloat? s).isSome := by
  unfold readNumeral?
  split
  · rename_i n hint
    exact (Number.isSome_readFloat?_of_readInt? hint).symm
  · exact Option.isSome_map

/-- A number is read as a whole number or as a float. -/
theorem number_of_readNumeral? {value : Value} (h : readNumeral? s = some value) :
    (∃ n, value = .int n) ∨ ∃ x, value = .float x := by
  unfold readNumeral? at h
  split at h
  · rename_i n _
    exact Or.inl ⟨n, (Option.some.inj h).symm⟩
  · obtain ⟨x, -, hx⟩ := Option.map_eq_some_iff.mp h
    exact Or.inr ⟨x, hx.symm⟩

/-- A character that is foreign to numerals does not occur in one. -/
theorem not_mem_of_readNumeral? (hs : IsTrimmed s) (h : (readNumeral? s).isSome = true) {c : Char}
    (hc : Number.isForeign c = true) : c ∉ s := by
  intro hmem
  rw [isSome_readNumeral?] at h
  rw [← Number.unpadded_eq hs] at hmem
  have hown := Number.not_isForeign_of_readFloat? h c hmem
  rw [hc] at hown
  cases hown

/-- What is left of a raw text: blanks around it are taken off, and one group of marks behind it,
which may stand apart from it. If what is left ends with a mark itself, the group does stand
apart. -/
inductive Leaves : List Char → List Char → Prop where
  | intro {front s gap marks back : List Char} (hs : IsTrimmed s)
    (hfront : ∀ c ∈ front, isBlank c = true) (hgap : ∀ c ∈ gap, isBlank c = true)
    (hmarks : ∀ c ∈ marks, isMark c = true) (hback : ∀ c ∈ back, isBlank c = true)
    (happart : (∃ c ∈ s.getLast?, isMark c = true) → gap ≠ [] ∧ marks ≠ []) :
    Leaves (front ++ (s ++ gap ++ marks) ++ back) s

/-- Blanks are taken off, then marks, then what blanks stood before these. -/
theorem literalText_def (raw : List Char) :
    literalText raw = trim (dropTail isMark (trim raw)) := rfl

/-- There are no blanks around the text of a literal. -/
theorem isTrimmed_literalText (raw : List Char) : IsTrimmed (literalText raw) := isTrimmed_trim _

/-- What is left of a raw text is the text of the literal. -/
theorem Leaves.literalText_eq (h : Leaves raw s) : literalText raw = s := by
  obtain ⟨hs, hfront, hgap, hmarks, hback, happart⟩ := h
  rename_i front gap marks back
  have hshort : trim (s ++ gap) = s := by
    have hcut : trim ([] ++ s ++ gap) = trim s :=
      trim_append_blanks (List.forall_mem_nil _) hgap s
    rw [List.nil_append] at hcut
    rw [hcut, hs.trim_eq]
  rw [literalText_def, trim_append_blanks hfront hback]
  by_cases hnone : marks = []
  · have hlast : ∀ c ∈ s.getLast?, isMark c = false := by
      intro c hc
      by_contra hmark
      exact (happart ⟨c, hc, by simpa using hmark⟩).2 hnone
    rw [hnone, List.append_nil, hshort, dropTail_eq_self hlast, hs.trim_eq]
  · have hkept : dropTail isMark (s ++ gap) = s ++ gap := by
      refine dropTail_eq_self fun c hc => ?_
      rw [List.getLast?_append, Option.mem_def, Option.or_eq_some_iff] at hc
      rcases hc with hblank | ⟨hempty, hlast⟩
      · exact isMark_of_isBlank (hgap c (List.mem_of_mem_getLast? hblank))
      · by_contra hmark
        exact (happart ⟨c, hlast, by simpa using hmark⟩).1 (List.getLast?_eq_none_iff.mp hempty)
    have hnotBlank : ∀ c ∈ marks, isBlank c = false := fun c hc => isBlank_of_isMark (hmarks c hc)
    by_cases hempty : s = []
    · have hlong : trim (s ++ gap ++ marks) = marks := by
        have hcut : trim (gap ++ marks ++ []) = trim marks :=
          trim_append_blanks hgap (List.forall_mem_nil _) marks
        rw [List.append_nil] at hcut
        rw [hempty, List.nil_append, hcut, (IsTrimmed.of_forall hnotBlank).trim_eq]
      have hdropped : dropTail isMark marks = [] := List.rdropWhile_eq_nil_iff.mpr hmarks
      rw [hlong, hdropped, hempty]
      rfl
    · have hlong : trim (s ++ gap ++ marks) = s ++ gap ++ marks := by
        have hwhole : IsTrimmed (s ++ (gap ++ marks)) := hs.append hempty fun c hc => by
          rw [List.getLast?_append_of_ne_nil _ hnone] at hc
          exact hnotBlank c (List.mem_of_mem_getLast? hc)
        rw [List.append_assoc, hwhole.trim_eq]
      rw [hlong, dropTail_append_of_forall hmarks, hkept, hshort]

/-- The text of the literal is left of every raw text. -/
theorem leaves_literalText (raw : List Char) : Leaves raw (literalText raw) := by
  obtain ⟨front, back, hraw, hfront, hback⟩ := exists_trim raw
  obtain ⟨marks, hmarked, hmarks⟩ := exists_dropTail isMark (trim raw)
  obtain ⟨lead, gap, hrest, hlead, hgap⟩ := exists_trim (dropTail isMark (trim raw))
  rw [← literalText_def] at hrest
  have happart : (∃ c ∈ (literalText raw).getLast?, isMark c = true) → gap ≠ [] ∧ marks ≠ [] := by
    rintro ⟨c, hc, hmark⟩
    have hgap_ne : gap ≠ [] := by
      rintro rfl
      have hlast : c ∈ (dropTail isMark (trim raw)).getLast? := by
        rw [hrest, List.append_nil, List.getLast?_append, hc]
        rfl
      rw [getLast?_dropTail isMark (trim raw) c hlast] at hmark
      cases hmark
    refine ⟨hgap_ne, ?_⟩
    rintro rfl
    rw [List.append_nil] at hmarked
    obtain ⟨d, hd⟩ : ∃ d, gap.getLast? = some d := ⟨_, List.getLast?_eq_some_getLast hgap_ne⟩
    have hlast : d ∈ (trim raw).getLast? := by
      rw [hmarked, hrest, List.getLast?_append, hd]
      rfl
    have hblank := hgap d (List.mem_of_mem_getLast? hd)
    rw [(isTrimmed_trim raw).last d hlast] at hblank
    cases hblank
  have hwhole : raw = front ++ lead ++ (literalText raw ++ gap ++ marks) ++ back := by
    calc
      raw = front ++ trim raw ++ back := hraw
      _ = front ++ (dropTail isMark (trim raw) ++ marks) ++ back := by rw [← hmarked]
      _ = front ++ (lead ++ literalText raw ++ gap ++ marks) ++ back := by rw [← hrest]
      _ = front ++ lead ++ (literalText raw ++ gap ++ marks) ++ back := by simp
  have hleaves : Leaves (front ++ lead ++ (literalText raw ++ gap ++ marks) ++ back)
      (literalText raw) :=
    .intro (isTrimmed_literalText raw) (List.forall_mem_append.mpr ⟨hfront, hlead⟩) hgap hmarks
      hback happart
  rwa [← hwhole] at hleaves

/-- A text is a literal as it stands if there is nothing to be taken off at its ends. -/
theorem literalText_eq (h : IsTrimmed s) (hlast : ∀ c ∈ s.getLast?, isMark c = false) :
    literalText s = s := by
  have hleaves : Leaves ([] ++ (s ++ [] ++ []) ++ []) s := by
    refine .intro h nofun nofun nofun nofun ?_
    rintro ⟨c, hc, hmark⟩
    rw [hlast c hc] at hmark
    cases hmark
  simpa using hleaves.literalText_eq

/-- A text that ends with a mark is none of those that do not. -/
theorem ne_of_marked {word : List Char} (h : ∃ c ∈ s.getLast?, isMark c = true)
    (hword : word.getLast?.any isMark = false) : s ≠ word := by
  rintro rfl
  obtain ⟨c, hc, hmark⟩ := h
  rw [Option.mem_def.mp hc, Option.any_some, hmark] at hword
  cases hword

/-- What ends with a mark does not stand between quotes. -/
theorem betweenQuotes?_of_marked (h : ∃ c ∈ s.getLast?, isMark c = true) :
    betweenQuotes? s = none := by
  cases hquotes : betweenQuotes? s with
  | none => rfl
  | some content =>
    obtain ⟨quote, hquote, rfl⟩ := eq_of_betweenQuotes? hquotes
    have hlast : (quote :: (content ++ [quote])).getLast? = some quote :=
      List.getLast?_concat (l := quote :: content)
    refine absurd rfl (ne_of_marked h ?_)
    rw [hlast, Option.any_some]
    simp only [List.mem_cons, List.not_mem_nil, or_false] at hquote
    rcases hquote with rfl | rfl | rfl <;> rfl

/-- A literal whose text ends with a mark has no value. -/
theorem readLiteral_of_marked (h : ∃ c ∈ (literalText raw).getLast?, isMark c = true) :
    readLiteral raw = .null := by
  have hnumeral : readNumeral? (literalText raw) = none := by
    rw [← Option.not_isSome_iff_eq_none]
    intro hsome
    obtain ⟨c, hc, hmark⟩ := h
    exact not_mem_of_readNumeral? (isTrimmed_literalText raw) hsome (isForeign_of_isMark hmark)
      (List.mem_of_mem_getLast? hc)
  have htrue : literalText raw ≠ "true".toList := ne_of_marked h (by decide)
  have hfalse : literalText raw ≠ "false".toList := ne_of_marked h (by decide)
  have hlist : literalText raw ≠ "[]".toList := ne_of_marked h (by decide)
  have hobject : literalText raw ≠ ['\x7b', '\x7d'] := ne_of_marked h (by decide)
  simp only [readLiteral, betweenQuotes?_of_marked h, beq_false_of_ne htrue, beq_false_of_ne hfalse,
    beq_false_of_ne hlist, beq_false_of_ne hobject, Bool.false_eq_true, if_false, hnumeral,
    Option.getD_none]

/-- A text that begins with a character that is foreign to numerals is none. -/
theorem readNumeral?_of_head {c : Char} {rest : List Char} (h : IsTrimmed (c :: rest))
    (hc : Number.isForeign c = true) : readNumeral? (c :: rest) = none := by
  rw [← Option.not_isSome_iff_eq_none]
  exact fun hsome => not_mem_of_readNumeral? h hsome hc List.mem_cons_self

/-- Where nothing is left to be taken off, type and value are told by one text. -/
theorem told_of_unmarked (h : ∀ c ∈ (literalText raw).getLast?, isMark c = false) :
    Told (literalType raw) (readLiteral raw) := by
  have hsettled : literalText (literalText raw) = literalText raw :=
    literalText_eq (isTrimmed_literalText raw) h
  have hagain : readLiteral (literalText raw) = readLiteral raw := by
    rw [readLiteral, hsettled, readLiteral]
  have htrimmed := isTrimmed_literalText raw
  simp only [literalType, hagain]
  simp only [readLiteral]
  obtain ⟨text, htext⟩ : ∃ text, literalText raw = text := ⟨_, rfl⟩
  rw [htext] at htrimmed
  simp only [htext]
  cases hquotes : betweenQuotes? text with
  | some content => exact .string _
  | none =>
    simp only [Option.isSome_none, Bool.false_eq_true, if_false]
    by_cases htrue : text = "true".toList
    · subst htrue
      exact .boolean true
    by_cases hfalse : text = "false".toList
    · subst hfalse
      exact .boolean false
    by_cases hlist : text = "[]".toList
    · subst hlist
      exact .emptyList
    by_cases hobject : text = ['\x7b', '\x7d']
    · subst hobject
      exact .emptyObject
    simp only [beq_false_of_ne htrue, beq_false_of_ne hfalse, beq_false_of_ne hlist,
      beq_false_of_ne hobject, Bool.or_self, Bool.false_eq_true, if_false]
    cases text with
    | nil => exact .any
    | cons c rest =>
      by_cases hopen : c = '['
      · subst hopen
        rw [readNumeral?_of_head htrimmed (by decide)]
        exact .list
      by_cases hbrace : c = '\x7b'
      · subst hbrace
        rw [readNumeral?_of_head htrimmed (by decide)]
        exact .object
      simp only [List.head?_cons, Option.some_beq_some, beq_false_of_ne hopen,
        beq_false_of_ne hbrace, Bool.false_eq_true, if_false]
      cases hnumeral : readNumeral? (c :: rest) with
      | none => exact .any
      | some value =>
        rcases number_of_readNumeral? hnumeral with ⟨n, rfl⟩ | ⟨x, rfl⟩
        · exact .whole n
        · exact .float x

/-- A literal whose text is a numeral is read as a number. -/
theorem readLiteral_of_numeral (h : (readNumeral? (literalText raw)).isSome = true) :
    ∃ value, readLiteral raw = value ∧ ((∃ n, value = .int n) ∨ ∃ x, value = .float x) := by
  obtain ⟨value, hvalue⟩ := Option.isSome_iff_exists.mp h
  have hown : ∀ c, Number.isForeign c = true → c ∉ literalText raw := fun _ =>
    not_mem_of_readNumeral? (isTrimmed_literalText raw) h
  have hquotes : betweenQuotes? (literalText raw) = none := by
    cases hquotes : betweenQuotes? (literalText raw) with
    | none => rfl
    | some content =>
      obtain ⟨quote, hquote, htext⟩ := eq_of_betweenQuotes? hquotes
      have hforeign : Number.isForeign quote = true := by
        simp only [List.mem_cons, List.not_mem_nil, or_false] at hquote
        rcases hquote with rfl | rfl | rfl <;> rfl
      exact absurd (htext ▸ List.mem_cons_self) (hown quote hforeign)
  have hne : ∀ {word : List Char} {c : Char}, c ∈ word → Number.isForeign c = true →
      (literalText raw == word) = false := by
    intro word c hmem hc
    refine beq_false_of_ne fun heq => ?_
    exact hown c hc (heq ▸ hmem)
  have htrue : (literalText raw == "true".toList) = false := hne (c := 'r') (by decide) (by decide)
  have hfalse : (literalText raw == "false".toList) = false :=
    hne (c := 'l') (by decide) (by decide)
  have hlist : (literalText raw == "[]".toList) = false := hne (c := '[') (by decide) (by decide)
  have hobject : (literalText raw == ['\x7b', '\x7d']) = false :=
    hne (c := '\x7b') (by decide) (by decide)
  refine ⟨value, ?_, number_of_readNumeral? hvalue⟩
  simp only [readLiteral, hquotes, htrue, hfalse, hlist, hobject, Bool.false_eq_true, if_false,
    hvalue, Option.getD_some]

/-- A numeral does not end with a mark. -/
theorem not_marked_of_numeral (hs : IsTrimmed s) (h : (readNumeral? s).isSome = true) :
    ¬∃ c ∈ s.getLast?, isMark c = true := by
  rintro ⟨c, hc, hmark⟩
  exact not_mem_of_readNumeral? hs h (isForeign_of_isMark hmark) (List.mem_of_mem_getLast? hc)

/-- A numeral is not empty. -/
theorem ne_nil_of_numeral (h : (readNumeral? s).isSome = true) : s ≠ [] := by
  rintro rfl
  cases h

/-- Of two groups of marks behind a numeral, one is taken off with the text of the literal and the
other with the text of this text. -/
theorem IsMarkedTwice.leaves (h : IsMarkedTwice raw) :
    ∃ text numeral, Leaves raw text ∧ (∃ c ∈ text.getLast?, isMark c = true) ∧
      Leaves text numeral ∧ (readNumeral? numeral).isSome = true := by
  obtain ⟨hnumeral, hfirst, hgap, hsecond, hback⟩ := h
  rename_i numeral first gap second back
  obtain ⟨before, after, htext, hbefore, hafter⟩ := exists_trim numeral
  have hlast : (trim numeral ++ after ++ first).getLast? = some (first.getLast hfirst.ne_nil) := by
    rw [List.getLast?_append, List.getLast?_eq_some_getLast hfirst.ne_nil, Option.some_or]
  have hmark : isMark (first.getLast hfirst.ne_nil) = true :=
    hfirst.forall_mem _ (List.getLast_mem hfirst.ne_nil)
  have htrimmed : IsTrimmed (trim numeral ++ (after ++ first)) := by
    refine (isTrimmed_trim numeral).append (ne_nil_of_numeral hnumeral) fun c hc => ?_
    rw [List.getLast?_append_of_ne_nil _ hfirst.ne_nil] at hc
    exact isBlank_of_isMark (hfirst.forall_mem c (List.mem_of_mem_getLast? hc))
  have houter : Leaves (before ++ (trim numeral ++ after ++ first ++ gap ++ second) ++ back)
      (trim numeral ++ after ++ first) :=
    .intro (by rwa [List.append_assoc]) hbefore hgap.forall_mem hsecond.forall_mem hback
      fun _ => ⟨hgap.ne_nil, hsecond.ne_nil⟩
  have hinner : Leaves ([] ++ (trim numeral ++ after ++ first) ++ []) (trim numeral) :=
    .intro (isTrimmed_trim numeral) nofun hafter hfirst.forall_mem nofun
      fun hmarked => absurd hmarked (not_marked_of_numeral (isTrimmed_trim numeral) hnumeral)
  rw [List.nil_append, List.append_nil] at hinner
  have hraw : before ++ (trim numeral ++ after ++ first ++ gap ++ second) ++ back =
      numeral ++ first ++ gap ++ second ++ back := by
    calc
      _ = before ++ trim numeral ++ after ++ first ++ gap ++ second ++ back := by simp
      _ = numeral ++ first ++ gap ++ second ++ back := by rw [← htext]
  rw [hraw] at houter
  exact ⟨_, _, houter, ⟨_, hlast, hmark⟩, hinner, hnumeral⟩

/-- If one group of marks is left, and taking it off leaves a numeral, there are two behind the
numeral. -/
theorem isMarkedTwice_of_leaves {text numeral : List Char} (houter : Leaves raw text)
    (hmarked : ∃ c ∈ text.getLast?, isMark c = true) (hinner : Leaves text numeral)
    (hnumeral : (readNumeral? numeral).isSome = true) : IsMarkedTwice raw := by
  obtain ⟨hs, hbefore, hafter, hfirst, hend, -⟩ := hinner
  rename_i before after first ending
  obtain ⟨-, hfront, hgap, hsecond, hback, happart⟩ := houter
  rename_i front gap second back
  obtain ⟨hgap_ne, hsecond_ne⟩ := happart hmarked
  obtain ⟨c, hc, hmark⟩ := hmarked
  -- The last mark of the text belongs to the first group: it is no blank and not in the numeral.
  have hending : ending = [] := by
    by_contra hne
    rw [List.getLast?_append_of_ne_nil _ hne] at hc
    have hblank := hend c (List.mem_of_mem_getLast? hc)
    rw [isBlank_of_isMark hmark] at hblank
    cases hblank
  subst hending
  have hfirst_ne : first ≠ [] := by
    rintro rfl
    have hlast : c ∈ (before ++ (numeral ++ after)).getLast? := by simpa using hc
    have hmem : c ∈ before ∨ c ∈ numeral ∨ c ∈ after := by
      simpa using List.mem_of_mem_getLast? hlast
    have hblank : isBlank c = true := by
      rcases hmem with hin | hin | hin
      · exact hbefore c hin
      · exact absurd hin (not_mem_of_readNumeral? hs hnumeral (isForeign_of_isMark hmark))
      · exact hafter c hin
    rw [isBlank_of_isMark hmark] at hblank
    cases hblank
  have hwhole : (readNumeral? (trim (front ++ before ++ numeral ++ after))).isSome = true := by
    have hblanks : ∀ c ∈ front ++ before, isBlank c = true :=
      List.forall_mem_append.mpr ⟨hfront, hbefore⟩
    rwa [trim_append_blanks hblanks hafter numeral, hs.trim_eq]
  have htwice : IsMarkedTwice
      (front ++ before ++ numeral ++ after ++ first ++ gap ++ second ++ back) :=
    .intro hwhole ⟨hfirst_ne, hfirst⟩ ⟨hgap_ne, hgap⟩ ⟨hsecond_ne, hsecond⟩ hback
  simpa using htwice

/-- Whether there are two groups of marks can be seen by taking off the one and then the other. -/
theorem isMarkedTwice_iff : IsMarkedTwice raw ↔
    (∃ c ∈ (literalText raw).getLast?, isMark c = true) ∧
      (readNumeral? (literalText (literalText raw))).isSome = true := by
  constructor
  · intro h
    obtain ⟨text, numeral, houter, hmarked, hinner, hnumeral⟩ := h.leaves
    rw [houter.literalText_eq, hinner.literalText_eq]
    exact ⟨hmarked, hnumeral⟩
  · rintro ⟨hmarked, hnumeral⟩
    exact isMarkedTwice_of_leaves (leaves_literalText raw) hmarked (leaves_literalText _) hnumeral

/-- A trimmed text begins as what is left of it. -/
theorem Leaves.head?_eq {text : List Char} (h : Leaves text s) (htext : IsTrimmed text)
    (hne : s ≠ []) : text.head? = s.head? := by
  obtain ⟨-, hfront, -, -, -, -⟩ := h
  rename_i front gap marks back
  have hempty : front = [] := by
    cases front with
    | nil => rfl
    | cons c rest =>
      have hblank := hfront c List.mem_cons_self
      rw [htext.head c rfl] at hblank
      cases hblank
  obtain ⟨c, rest, rfl⟩ := List.exists_cons_of_ne_nil hne
  subst hempty
  rfl

/-- A numeral does not begin as a list or an object. -/
theorem head?_ne_of_numeral {c : Char} (h : (readNumeral? s).isSome = true) (hs : IsTrimmed s)
    (hc : Number.isForeign c = true) : s.head? ≠ some c := by
  exact fun hhead => not_mem_of_readNumeral? hs h hc (List.mem_of_mem_head? hhead)

/-- What is read as a number or as an empty collection is a numeral, or begins with a bracket or a
brace. -/
theorem of_isNumberLike (h : isNumberLike (readLiteral raw) = true) :
    (readNumeral? (literalText raw)).isSome = true ∨ (literalText raw).head? = some '[' ∨
      (literalText raw).head? = some '\x7b' := by
  by_contra hnone
  rw [not_or, not_or, Option.not_isSome_iff_eq_none] at hnone
  obtain ⟨hnumeral, hbracket, hbrace⟩ := hnone
  have hlist : literalText raw ≠ "[]".toList := fun heq => hbracket (by rw [heq]; rfl)
  have hobject : literalText raw ≠ ['\x7b', '\x7d'] := fun heq => hbrace (by rw [heq]; rfl)
  simp only [readLiteral, beq_false_of_ne hlist, beq_false_of_ne hobject, hnumeral,
    Option.getD_none, Bool.false_eq_true, if_false] at h
  split at h
  · cases h
  · split at h
    · cases h
    · split at h <;> cases h

/-- There is no number without a value. -/
theorem not_typeFits_number_null : ¬TypeFits "number" .null := by
  intro h
  rcases h.number.mp rfl with ⟨n, hn⟩ | ⟨x, hx⟩
  · cases hn
  · cases hx

/-- A literal whose text ends with a mark has the type of a number exactly if taking the mark off
leaves a numeral, and no type that has a value otherwise. -/
theorem literalType_of_marked (h : ∃ c ∈ (literalText raw).getLast?, isMark c = true) :
    ((readNumeral? (literalText (literalText raw))).isSome = true → literalType raw = "number") ∧
      ((readNumeral? (literalText (literalText raw))).isSome = false →
        Told (literalType raw) .null) := by
  have htrue : literalText raw ≠ "true".toList := ne_of_marked h (by decide)
  have hfalse : literalText raw ≠ "false".toList := ne_of_marked h (by decide)
  have hhead : literalText (literalText raw) ≠ [] →
      (literalText raw).head? = (literalText (literalText raw)).head? :=
    (leaves_literalText (literalText raw)).head?_eq (isTrimmed_literalText raw)
  have hopen : ∀ {c : Char}, (literalText (literalText raw)).head? = some c →
      (literalText raw).head? = some c := by
    intro c hc
    refine (hhead ?_).trans hc
    rintro hnil
    rw [hnil] at hc
    cases hc
  simp only [literalType, betweenQuotes?_of_marked h, beq_false_of_ne htrue, beq_false_of_ne hfalse,
    Option.isSome_none, Bool.or_self, Bool.false_eq_true, if_false, beq_iff_eq]
  constructor
  · intro hnumeral
    have hne := ne_nil_of_numeral hnumeral
    have hbracket := head?_ne_of_numeral hnumeral (isTrimmed_literalText _) (c := '[') (by decide)
    have hbrace := head?_ne_of_numeral hnumeral (isTrimmed_literalText _) (c := '\x7b') (by decide)
    rw [← hhead hne] at hbracket hbrace
    obtain ⟨value, hvalue, hkind⟩ := readLiteral_of_numeral hnumeral
    have hnumber : isNumberLike value = true := by
      rcases hkind with ⟨n, rfl⟩ | ⟨x, rfl⟩ <;> rfl
    rw [if_neg hbracket, if_neg hbrace, hvalue, if_pos hnumber]
  · intro hnumeral
    by_cases hbracket : (literalText raw).head? = some '['
    · rw [if_pos hbracket]
      exact .list
    by_cases hbrace : (literalText raw).head? = some '\x7b'
    · rw [if_neg hbracket, if_pos hbrace]
      exact .object
    have hnumber : ¬isNumberLike (readLiteral (literalText raw)) = true := by
      intro hlike
      rcases of_isNumberLike hlike with hsome | hfirst | hfirst
      · rw [hnumeral] at hsome
        cases hsome
      · exact hbracket (hopen hfirst)
      · exact hbrace (hopen hfirst)
    rw [if_neg hbracket, if_neg hbrace, if_neg hnumber]
    exact .any

/-- **The type of a literal fits its value unless two groups of marks stand behind a numeral.** Then
the type is that of a number and there is no value; everywhere else type and value agree. -/
theorem literalType_fits_iff (raw : List Char) :
    (TypeFits (literalType raw) (readLiteral raw) ↔ ¬IsMarkedTwice raw) ∧
      (IsMarkedTwice raw ↔ literalType raw = "number" ∧ readLiteral raw = .null) := by
  -- Whatever agrees is not a number without a value, so that one of the two cases is enough.
  suffices hcases : (IsMarkedTwice raw ∧ literalType raw = "number" ∧ readLiteral raw = .null) ∨
      (¬IsMarkedTwice raw ∧ Told (literalType raw) (readLiteral raw)) by
    rcases hcases with ⟨htwice, htype, hvalue⟩ | ⟨honce, htold⟩
    · rw [htype, hvalue]
      exact ⟨iff_of_false not_typeFits_number_null (not_not_intro htwice),
        iff_of_true htwice ⟨rfl, rfl⟩⟩
    · refine ⟨iff_of_true htold.typeFits honce, iff_of_false honce ?_⟩
      rintro ⟨htype, hvalue⟩
      have hfits := htold.typeFits
      rw [htype, hvalue] at hfits
      exact not_typeFits_number_null hfits
  by_cases hmarked : ∃ c ∈ (literalText raw).getLast?, isMark c = true
  · have hvalue := readLiteral_of_marked hmarked
    have htype := literalType_of_marked hmarked
    rw [isMarkedTwice_iff, and_iff_right hmarked, hvalue]
    cases hnumeral : (readNumeral? (literalText (literalText raw))).isSome with
    | true => exact Or.inl ⟨rfl, htype.1 hnumeral, rfl⟩
    | false => exact Or.inr ⟨Bool.false_ne_true, htype.2 hnumeral⟩
  · have hunmarked : ∀ c ∈ (literalText raw).getLast?, isMark c = false := by
      intro c hc
      by_contra hmark
      exact hmarked ⟨c, hc, by simpa using hmark⟩
    exact Or.inr ⟨fun htwice => hmarked (isMarkedTwice_iff.mp htwice).1, told_of_unmarked hunmarked⟩

/-- A numeral with a semicolon behind it, and another one apart from that, should have no type, for
it has no value, and yet its type is that of a number. -/
theorem marked_numeral_has_no_value :
    literalType "5; ;".toList = "number" ∧ readLiteral "5; ;".toList = .null ∧
      ¬TypeFits (literalType "5; ;".toList) (readLiteral "5; ;".toList) := by
  have htype : literalType "5; ;".toList = "number" := rfl
  have hvalue : readLiteral "5; ;".toList = .null := rfl
  refine ⟨htype, hvalue, fun hfits => ?_⟩
  rw [htype, hvalue] at hfits
  exact not_typeFits_number_null hfits

end Restack.Outline
