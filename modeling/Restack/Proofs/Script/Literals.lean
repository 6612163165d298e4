import Restack.Proofs.Script.DeclaredNames

/-!
# Numbers and truth values in scripts

What the parser that reads by the grammar takes for a number begins with a digit or with the point
before its fraction, and it is made of letters, digits and a few signs. The words for truth values
are spelled letter by letter.
-/

namespace Restack.Script

open Text (isAsciiDigit isAsciiLetter isBlank)

namespace Lexeme

variable {p : Char → Bool} {c : Char} {s : List Char} {t : List Char × List Char}

/-- Digits are characters of numbers. -/
theorem isNumberChar_of_isAsciiDigit (h : isAsciiDigit c = true) : isNumberChar c = true := by
  rw [isNumberChar, h]
  rfl

/-- Letters are characters of numbers. -/
theorem isNumberChar_of_isAsciiLetter (h : isAsciiLetter c = true) : isNumberChar c = true := by
  rw [isNumberChar, h, Bool.or_true]
  rfl

/-- Hexadecimal digits are characters of numbers. -/
theorem isNumberChar_of_isHex (h : isHex c = true) : isNumberChar c = true := by
  rcases isHex_cases h with hdigit | hletter
  · exact isNumberChar_of_isAsciiDigit hdigit
  · exact isNumberChar_of_isAsciiLetter hletter

/-- A run of digits is made of the characters of numbers. -/
theorem isNumberChar_of_takeDigitRun (hp : ∀ c, p c = true → isNumberChar c = true)
    (inside : Bool) (s : List Char) :
    ∀ c ∈ (takeDigitRun p inside s).1, isNumberChar c = true := by
  induction s generalizing inside with
  | nil => exact nofun
  | cons c rest ih =>
    rw [takeDigitRun]
    split
    · rename_i hc
      exact List.forall_mem_cons.mpr ⟨hp c hc, ih true⟩
    · split
      · rename_i hline
        have hc : c = '_' := by
          simp only [Bool.and_eq_true, beq_iff_eq] at hline
          exact hline.1.2
        exact List.forall_mem_cons.mpr ⟨hc ▸ rfl, ih false⟩
      · exact nofun

/-- A run of at least one digit is made of the characters of numbers. -/
theorem isNumberChar_of_takeDigitRun1 (hp : ∀ c, p c = true → isNumberChar c = true)
    (h : takeDigitRun1 p s = some t) : ∀ c ∈ t.1, isNumberChar c = true := by
  unfold takeDigitRun1 at h
  split at h
  · cases h
  · cases h
    exact isNumberChar_of_takeDigitRun hp false s

/-- A run of digits begins with a digit. -/
theorem head_takeDigitRun (s : List Char) : ∀ c ∈ (takeDigitRun p false s).1.head?, p c = true := by
  cases s with
  | nil => exact nofun
  | cons c rest =>
    rw [takeDigitRun]
    split
    · rename_i hc
      rintro _ ⟨⟩
      exact hc
    · rw [Bool.false_and, Bool.false_and, if_neg Bool.false_ne_true]
      exact nofun

/-- An exponent is made of the characters of numbers. -/
theorem isNumberChar_of_takeExponent (s : List Char) :
    ∀ c ∈ (takeExponent s).1, isNumberChar c = true := by
  unfold takeExponent
  split
  · rename_i mark rest
    split
    · rename_i hmark
      have hmark : isNumberChar mark = true := by
        simp only [Bool.or_eq_true, beq_iff_eq] at hmark
        rcases hmark with rfl | rfl <;> rfl
      dsimp only
      split
      · rename_i hrun
        have hdigits := isNumberChar_of_takeDigitRun1 (fun _ => isNumberChar_of_isAsciiDigit) hrun
        refine List.forall_mem_cons.mpr ⟨hmark, List.forall_mem_append.mpr ⟨?_, hdigits⟩⟩
        split
        · exact fun c hc => List.mem_singleton.mp hc ▸ rfl
        · exact fun c hc => List.mem_singleton.mp hc ▸ rfl
        · exact nofun
      · exact nofun
    · exact nofun
  · exact nofun

/-- What a number is made of, wherever it has been read. -/
def IsNumeric (t : List Char × List Char) : Prop :=
  (∃ c rest, t.1 = c :: rest ∧ isNumberStart c = true) ∧ ∀ c ∈ t.1, isNumberChar c = true

/-- The mark of big numbers is one of the characters of numbers. -/
theorem isNumeric_of_withBigMark {taken : Taken} (h : ∀ t ∈ taken, IsNumeric t) :
    ∀ t ∈ withBigMark taken, IsNumeric t := by
  unfold withBigMark
  split
  · rename_i digits rest
    obtain ⟨⟨c, others, hhead, hstart⟩, hall⟩ := h _ rfl
    rintro _ ⟨⟩
    refine ⟨⟨c, others ++ ['n'], ?_, hstart⟩, List.forall_mem_append.mpr ⟨hall, ?_⟩⟩
    · exact congrArg (· ++ ['n']) hhead
    · exact List.all_eq_true.mp rfl
  · exact h

/-- Numbers with a base are made of what numbers are. -/
theorem isNumeric_of_takeBased {letters : List Char}
    (hletters : ∀ c ∈ letters, isNumberChar c = true)
    (hp : ∀ c, p c = true → isNumberChar c = true) (s : List Char) :
    ∀ t ∈ takeBased letters p s, IsNumeric t := by
  unfold takeBased
  split
  · rename_i c rest
    split
    · rename_i hc
      intro t ht
      obtain ⟨digits, hdigits, rfl⟩ := Option.map_eq_some_iff.mp ht
      refine ⟨⟨'0', _, rfl, rfl⟩, List.forall_mem_cons.mpr ⟨rfl, ?_⟩⟩
      exact List.forall_mem_cons.mpr
        ⟨hletters c (by simpa using hc), isNumberChar_of_takeDigitRun1 hp hdigits⟩
    · exact nofun
  · exact nofun

/-- Decimal numbers are made of what numbers are. -/
theorem isNumeric_of_takeDecimal (s : List Char) : ∀ t ∈ takeDecimal s, IsNumeric t := by
  have hdigit : ∀ c, isAsciiDigit c = true → isNumberChar c = true :=
    fun _ => isNumberChar_of_isAsciiDigit
  unfold takeDecimal
  split
  · split
    · split
      · rename_i fraction after hrun
        rintro _ ⟨⟩
        refine ⟨⟨'.', _, rfl, rfl⟩, List.forall_mem_cons.mpr ⟨rfl, ?_⟩⟩
        exact List.forall_mem_append.mpr
          ⟨isNumberChar_of_takeDigitRun1 hdigit hrun, isNumberChar_of_takeExponent after⟩
      · exact nofun
    · exact nofun
  · rename_i whole rest hne hrun
    have hall := isNumberChar_of_takeDigitRun hdigit false s
    have hhead := head_takeDigitRun (p := isAsciiDigit) s
    rw [hrun] at hall hhead
    cases whole with
    | nil => exact absurd rfl hne
    | cons c others =>
      have hstart : isNumberStart c = true := by
        rw [isNumberStart, hhead c rfl]
        rfl
      have hwhole : IsNumeric (c :: others, rest) := ⟨⟨c, others, rfl, hstart⟩, hall⟩
      have hmore : ∀ more after, (∀ c ∈ more, isNumberChar c = true) →
          IsNumeric (c :: others ++ more, after) := fun more after hmore =>
        ⟨⟨c, others ++ more, rfl, hstart⟩, List.forall_mem_append.mpr ⟨hall, hmore⟩⟩
      have hbig : ∀ t ∈ withBigMark (some (c :: others, rest)), IsNumeric t :=
        isNumeric_of_withBigMark (by rintro _ ⟨⟩; exact hwhole)
      dsimp only
      split
      · exact hbig
      · split
        · rintro _ ⟨⟩
          refine hmore _ _ (List.forall_mem_cons.mpr ⟨rfl, List.forall_mem_append.mpr ⟨?_, ?_⟩⟩)
          · exact isNumberChar_of_takeDigitRun hdigit false _
          · exact isNumberChar_of_takeExponent _
        · split
          · exact hbig
          · rename_i exponent after hexponent
            have hchars := isNumberChar_of_takeExponent rest
            rw [hexponent] at hchars
            rintro _ ⟨⟩
            exact hmore _ _ hchars

/-- Whatever is read as a number is made of what numbers are. -/
theorem isNumeric_of_number (s : List Char) : ∀ t ∈ number s, IsNumeric t := by
  unfold number
  split
  · rename_i hbased
    exact isNumeric_of_withBigMark fun t ht =>
      isNumeric_of_takeBased (List.all_eq_true.mp rfl) (fun _ => isNumberChar_of_isHex) s t
        (hbased.trans ht)
  · split
    · rename_i hbased
      refine isNumeric_of_withBigMark fun t ht =>
        isNumeric_of_takeBased (List.all_eq_true.mp rfl) (fun c hc => ?_) s t (hbased.trans ht)
      simp only [Bool.or_eq_true, beq_iff_eq] at hc
      rcases hc with rfl | rfl <;> rfl
    · split
      · rename_i hbased
        refine isNumeric_of_withBigMark fun t ht =>
          isNumeric_of_takeBased (List.all_eq_true.mp rfl) (fun c hc => ?_) s t (hbased.trans ht)
        refine isNumberChar_of_isAsciiDigit ?_
        simp only [Bool.and_eq_true, decide_eq_true_eq] at hc
        have hcode : 48 ≤ c.toNat ∧ c.toNat ≤ 55 := hc
        simp only [isAsciiDigit, Bool.and_eq_true, decide_eq_true_eq]
        exact ⟨hc.1, show c.toNat ≤ 57 by omega⟩
      · exact isNumeric_of_takeDecimal s

end Lexeme

/-- What is read as a number begins and goes on like one. -/
theorem IsNumberText.isNumeral {text : List Char} (h : IsNumberText text) :
    Lexeme.isNumeral text = true := by
  obtain ⟨s, rest, hnumber⟩ := h
  obtain ⟨⟨c, others, htext, hstart⟩, hall⟩ := Lexeme.isNumeric_of_number s _ hnumber
  obtain rfl : text = c :: others := htext
  rw [Lexeme.isNumeral, List.head?_cons, Option.any_some, hstart, Bool.true_and]
  exact List.all_eq_true.mpr hall

/-- A truth value is written as its word. -/
theorem steps_ofTruth (dialect : Dialect) (b : Bool) :
    ∀ line ∈ (Symbol.rule (.node (Kind.ofTruth b))).lines (Script.grammar dialect),
      line.steps = [⟨.terminal (.word (wordOfTruth b)), .plain⟩] := by
  cases dialect <;> cases b <;> decide

/-- No guise makes a number or a truth value of what is none. -/
theorem Guise.isLiteral_kind (guise : Guise) :
    guise.kind ≠ .number ∧ ∀ b, guise.kind ≠ Kind.ofTruth b := by
  cases guise <;> decide

/-- The parts that a single word has. -/
theorem Row.textOfList_of_word {grammar : Rule → Form} {w : String} {parts : List Tree}
    (h : Row grammar [⟨.terminal (.word w), .plain⟩] parts) :
    Tree.textOfList parts.reverse = w := by
  cases h with
  | cons hderives hbefore hrest hfirst =>
    obtain rfl := hfirst rfl
    cases hrest
    cases hderives with
    | @unit _ text hspells =>
      have htext : String.ofList text = w := hspells.2
      rw [List.append_nil, List.append_nil, ← htext]
      cases text with
      | nil => rfl
      | cons c rest => exact String.append_empty
    | line hline => cases hline

namespace Tree

variable {dialect : Dialect} {tree node : Tree}

/-- The numbers of a script are spelled as numbers. -/
theorem IsProgram.isNumberText (h : tree.IsProgram (Script.grammar dialect))
    (hnode : tree.Holds node) (hkind : node.kind? = some .number) :
    IsNumberText node.text.toList := by
  cases h.formed hnode (by rw [isKind, hkind]; rfl) with
  | @unit what kind _ text hwhat hspells =>
    cases hkind
    cases what with
    | number =>
      have hnumber : IsNumberText text := hspells
      simpa [Tree.text, textOfList] using hnumber
    | _ => cases hwhat
  | comment _ _ hcomment =>
    cases hkind
    cases hcomment
  | guise guise => exact absurd (Option.some.inj hkind) guise.isLiteral_kind.1
  | line _ hunit =>
    cases hkind
    cases hunit

/-- The truth values of a script are spelled letter by letter. -/
theorem IsProgram.text_eq_wordOfTruth (h : tree.IsProgram (Script.grammar dialect))
    (hnode : tree.Holds node) {b : Bool} (hkind : node.kind? = some (Kind.ofTruth b)) :
    node.text = wordOfTruth b := by
  have hprogram : node.isKind .program = false := by
    rw [isKind, hkind]
    cases b <;> rfl
  cases h.formed hnode hprogram with
  | @unit what _ _ _ hwhat =>
    cases hkind
    cases b <;> cases what <;> cases hwhat
  | comment _ _ hcomment =>
    cases hkind
    cases b <;> cases hcomment
  | guise guise => exact absurd (Option.some.inj hkind) (guise.isLiteral_kind.2 b)
  | line _ _ hline hrow =>
    cases hkind
    rw [steps_ofTruth dialect b _ hline] at hrow
    exact hrow.textOfList_of_word

end Tree

/-- The parser that reads by the grammar gives trees whose numbers are spelled as such. -/
theorem parse_spellsNumbers : parse.Ensures Tree.SpellsNumbers :=
  fun _ _ _ htree _ hnode hkind =>
    ((isProgram_of_parse htree).isNumberText hnode hkind).isNumeral

/-- The parser that reads by the grammar gives trees whose truth values are spelled as their
words. -/
theorem parse_spellsTruths : parse.Ensures Tree.SpellsTruths :=
  fun _ _ _ htree _ hnode _ hkind => (isProgram_of_parse htree).text_eq_wordOfTruth hnode hkind

end Restack.Script
