import Mathlib.Data.List.TakeDrop
import Restack.Proofs.Text.Trimming
import Restack.Script.Token

/-!
# Units and what they spell

Whatever units are expected, a name or a word that comes next has been read as a name, and a number
as a number. A name holds nothing that would end it, whatever escapes it is written with.
-/

namespace Restack.Script

/-- A text that can be read as a name. -/
def IsNameText (text : List Char) : Prop :=
  ∃ s rest, Lexeme.name s = some (text, rest)

/-- A text that can be read as a number. -/
def IsNumberText (text : List Char) : Prop :=
  ∃ s rest, Lexeme.number s = some (text, rest)

namespace Lexeme

/-- Blanks that end a name: all but the sign for a next line. -/
def endsName (c : Char) : Bool :=
  Text.isBlank c && c.toNat != 0x85

variable {c : Char} {s text rest : List Char}

/-- What is no blank does not end a name. -/
theorem endsName_of_isBlank (h : Text.isBlank c = false) : endsName c = false := by
  rw [endsName, h, Bool.false_and]

/-- The characters of names do not end them. -/
theorem endsName_of_isNameChar (h : isNameChar c = true) : endsName c = false := by
  unfold isNameChar at h
  split at h
  · rename_i hlow
    refine endsName_of_isBlank ?_
    simp only [Text.isWordChar, if_pos hlow, Bool.or_eq_true, beq_iff_eq] at h
    rcases h with (((hletter | hdigit) | rfl) | rfl) | hdelete
    · exact Text.isBlank_of_isAsciiLetter hletter
    · exact Text.isBlank_of_isAsciiDigit hdigit
    · rfl
    · rfl
    · simp [Text.isBlank, hdelete]
  · rename_i hhigh
    have hspace : isSpace c = false := by simpa using h
    have hlarge : 128 ≤ c.toNat := by omega
    by_cases hnext : c.toNat = 0x85
    · simp [endsName, hnext]
    · refine endsName_of_isBlank ?_
      simp only [isSpace, Bool.or_eq_false_iff, Bool.and_eq_false_iff, decide_eq_true hlarge,
        bne_eq_false_iff_eq, hnext, Bool.true_eq_false, false_or] at hspace
      exact hspace.2.1.1.1

/-- A hexadecimal digit is a digit or a letter. -/
theorem isHex_cases (h : isHex c = true) :
    Text.isAsciiDigit c = true ∨ Text.isAsciiLetter c = true := by
  unfold isHex Document.hexValue? at h
  simp only [Text.isAsciiLetter, Bool.or_eq_true, Bool.and_eq_true, decide_eq_true_eq]
  split at h
  · rename_i hdigit
    exact .inl hdigit
  · split at h
    · rename_i hletter
      simp only [Bool.and_eq_true, decide_eq_true_eq] at hletter
      have hcode : 97 ≤ c.toNat ∧ c.toNat ≤ 102 := hletter
      exact .inr (.inl ⟨show 97 ≤ c.toNat by omega, show c.toNat ≤ 122 by omega⟩)
    · split at h
      · rename_i hletter
        simp only [Bool.and_eq_true, decide_eq_true_eq] at hletter
        have hcode : 65 ≤ c.toNat ∧ c.toNat ≤ 70 := hletter
        exact .inr (.inr ⟨show 65 ≤ c.toNat by omega, show c.toNat ≤ 90 by omega⟩)
      · cases h

/-- The digits of the number of a character do not end a name. -/
theorem endsName_of_isHex (h : isHex c = true) : endsName c = false := by
  refine endsName_of_isBlank ?_
  rcases isHex_cases h with hdigit | hletter
  · exact Text.isBlank_of_isAsciiDigit hdigit
  · exact Text.isBlank_of_isAsciiLetter hletter

/-- What is taken as the number of a character is made of its digits. -/
theorem isHex_of_takeHex {n : Nat} (h : takeHex n s = some (text, rest)) :
    ∀ c ∈ text, isHex c = true := by
  induction n generalizing s text with
  | zero =>
    cases h
    exact nofun
  | succ n ih =>
    cases s with
    | nil => cases h
    | cons c s =>
      rw [takeHex] at h
      split at h
      · rename_i hc
        obtain ⟨⟨digits, after⟩, hdigits, heq⟩ := Option.map_eq_some_iff.mp h
        cases heq
        exact List.forall_mem_cons.mpr ⟨hc, ih hdigits⟩
      · cases h

/-- The number of a character is written with nothing that ends a name. -/
theorem endsName_of_takeNumberEscape (h : takeNumberEscape s = some (text, rest)) :
    ∀ c ∈ text, endsName c = false := by
  unfold takeNumberEscape at h
  split at h
  · rename_i inner
    split at h
    · cases h
    · rename_i digits after _ hspan
      cases h
      have hdigits : ∀ c ∈ digits, isHex c = true := by
        rw [List.span_eq_takeWhile_dropWhile] at hspan
        exact fun c hc => List.mem_takeWhile_imp ((Prod.mk.inj hspan).1 ▸ hc)
      refine List.forall_mem_cons.mpr ⟨rfl, List.forall_mem_append.mpr
        ⟨fun c hc => endsName_of_isHex (hdigits c hc), ?_⟩⟩
      exact List.forall_mem_cons.mpr ⟨rfl, nofun⟩
    · cases h
  · exact fun c hc => endsName_of_isHex (isHex_of_takeHex h c hc)

/-- One character of a name, or an escape that stands for one, does not end the name. -/
theorem endsName_of_takeNameChar {p : Char → Bool} (hp : ∀ c, p c = true → endsName c = false)
    (h : takeNameChar p s = some (text, rest)) : ∀ c ∈ text, endsName c = false := by
  unfold takeNameChar at h
  split at h
  · obtain ⟨⟨digits, after⟩, hdigits, heq⟩ := Option.map_eq_some_iff.mp h
    cases heq
    exact List.forall_mem_cons.mpr ⟨rfl, List.forall_mem_cons.mpr
      ⟨rfl, endsName_of_takeNumberEscape hdigits⟩⟩
  · split at h
    · rename_i hc
      cases h
      simpa using hp _ hc
    · cases h
  · cases h

/-- The rest of a name goes on as long as nothing ends it. -/
theorem endsName_of_takeNameRest (fuel : Nat) (s : List Char) :
    ∀ c ∈ (takeNameRest fuel s).1, endsName c = false := by
  induction fuel generalizing s with
  | zero => exact nofun
  | succ fuel ih =>
    rw [takeNameRest]
    split
    · rename_i front rest hfront
      exact List.forall_mem_append.mpr
        ⟨endsName_of_takeNameChar (fun _ => endsName_of_isNameChar) hfront, ih rest⟩
    · exact nofun

end Lexeme

/-- There is nothing in a name that would end it. -/
theorem IsNameText.endsName {text : List Char} (h : IsNameText text) :
    ∀ c ∈ text, Lexeme.endsName c = false := by
  obtain ⟨s, rest, hname⟩ := h
  unfold Lexeme.name at hname
  split at hname
  · rename_i front after hfront
    cases hname
    exact List.forall_mem_append.mpr
      ⟨Lexeme.endsName_of_takeNameChar
        (fun _ hc => Lexeme.endsName_of_isNameChar (Bool.and_eq_true_iff.mp hc).1) hfront,
        Lexeme.endsName_of_takeNameRest _ _⟩
  · cases hname

/-- Names are spelled as names, words letter by letter, and numbers as numbers. -/
def Terminal.Spells (what : Terminal) (text : List Char) : Prop :=
  match what with
  | .name => IsNameText text
  | .word w => IsNameText text ∧ String.ofList text = w
  | .number => IsNumberText text
  | _ => True

/-- Comments of either form. -/
def Kind.isComment (kind : Kind) : Bool := kind == .comment || kind == .htmlComment

namespace Token

/-- A unit that comes next is spelled as it should be, and a comment is one. -/
def Next.IsSpelled : Next → Prop
  | .unit found => found.what.Spells found.text
  | .comment found => found.what.isComment = true

variable {expected : List Terminal} {s : List Char} {found : Found Terminal}

/-- What is taken is what was expected. -/
theorem what_of_taken {α : Type} {what : α} {blank : List Char} {t : Taken} {found : Found α}
    (h : taken what blank t = some found) : found.what = what := by
  obtain ⟨_, -, rfl⟩ := Option.map_eq_some_iff.mp h
  rfl

/-- A mark of a choice is taken as such. -/
theorem what_of_choiceMark (h : choiceMark s = some found) : found.what = .choiceMark := by
  unfold choiceMark at h
  dsimp only at h
  split at h
  · rw [Option.ite_none_right_eq_some] at h
    cases h.2
    rfl
  · cases h

/-- No unit that depends on what is expected before all else is a name. -/
theorem isSpelled_of_special {next : Next} (h : special expected s = some next) :
    Next.IsSpelled next := by
  unfold special at h
  dsimp only at h
  split at h
  · split at h
    · cases h
    · obtain ⟨found, hfound, rfl⟩ := Option.map_eq_some_iff.mp h
      rw [Next.IsSpelled, what_of_taken hfound]
      trivial
  · split at h
    · rename_i hfound
      cases h
      split at hfound
      · rw [Next.IsSpelled, what_of_taken hfound]
        trivial
      · cases hfound
    · split at h
      · obtain ⟨found, hfound, rfl⟩ := Option.map_eq_some_iff.mp h
        unfold statementEnd at hfound
        dsimp only at hfound
        split at hfound
        · cases hfound
          trivial
        · split at hfound
          · obtain ⟨mark, hmark, rfl⟩ := Option.map_eq_some_iff.mp hfound
            rw [Next.IsSpelled]
            dsimp only
            rw [what_of_choiceMark hmark]
            trivial
          · cases hfound
      · split at h
        · obtain ⟨found, hfound, rfl⟩ := Option.map_eq_some_iff.mp h
          rw [Next.IsSpelled, what_of_choiceMark hfound]
          trivial
        · split at h
          · cases h
          · obtain ⟨found, hfound, rfl⟩ := Option.map_eq_some_iff.mp h
            rw [Next.IsSpelled, what_of_taken hfound]
            rfl

/-- A unit whose class has a reader of its own is no name, and a number if that reader reads
numbers. -/
theorem spells_of_reader {read? : Terminal → Option (List Char → Taken)}
    (hname : read? .name = none) (hword : ∀ w, read? (.word w) = none)
    (hnumber : ∀ read ∈ read? .number, read = Lexeme.number) {what : Terminal} {blank : List Char}
    (h : ((read? what).bind fun read => taken what blank (read s)) = some found) :
    found.what.Spells found.text := by
  obtain ⟨read, hread, hfound⟩ := Option.bind_eq_some_iff.mp h
  rw [what_of_taken hfound]
  cases what with
  | name =>
    rw [hname] at hread
    cases hread
  | word w =>
    rw [hword] at hread
    cases hread
  | number =>
    rw [hnumber read hread] at hfound
    obtain ⟨⟨text, rest⟩, htext, rfl⟩ := Option.map_eq_some_iff.mp hfound
    exact ⟨s, rest, htext⟩
  | _ => trivial

/-- A fold whose steps keep what they have or take the next element ends with one of these. -/
theorem foldl_eq_or_mem {α : Type} {choose : Option α → α → Option α}
    (hchoose : ∀ best a, choose best a = best ∨ choose best a = some a) (as : List α)
    (best : Option α) {a : α} (h : as.foldl choose best = some a) : best = some a ∨ a ∈ as := by
  induction as generalizing best with
  | nil => exact .inl h
  | cons first rest ih =>
    rcases ih _ h with hbest | hrest
    · rcases hchoose best first with heq | heq
      · exact .inl (heq ▸ hbest)
      · exact .inr (List.mem_cons.mpr (.inl (Option.some.inj (hbest.symm.trans heq))))
    · exact .inr (List.mem_cons_of_mem _ hrest)

/-- The longest unit is one of those that were found. -/
theorem mem_of_longest {units : List (Found Terminal)} (h : longest units = some found) :
    found ∈ units := by
  refine (foldl_eq_or_mem (fun best unit => ?_) units none h).resolve_left nofun
  cases best with
  | none => exact .inr rfl
  | some b =>
    dsimp only
    split
    · exact .inr rfl
    · exact .inl rfl

/-- A name or a word is spelled as what it is taken for. -/
theorem spells_of_nameOrWord {blank : List Char} (h : nameOrWord expected blank s = some found) :
    found.what.Spells found.text := by
  unfold nameOrWord at h
  dsimp only at h
  split at h
  · obtain ⟨⟨text, rest⟩, hname, rfl⟩ := Option.map_eq_some_iff.mp h
    dsimp only
    split
    · exact ⟨⟨s, rest, hname⟩, rfl⟩
    · exact ⟨s, rest, hname⟩
  · cases h

/-- The next unit by its length is spelled as it should be. -/
theorem isSpelled_of_ordinary {next : Next} (h : ordinary expected s = some next) :
    Next.IsSpelled next := by
  have hedge : ∀ unit, (expected.findSome? fun t =>
      (edgeReader? t).bind fun read => taken t [] (read s)) = some unit →
        unit.what.Spells unit.text := by
    intro unit hunit
    obtain ⟨_, what, _, -, hread, -⟩ := List.findSome?_eq_some_iff.mp hunit
    exact spells_of_reader rfl (fun _ => rfl) (by rintro _ ⟨⟩) hread
  have hfound : ∀ (blank rest : List Char), ∀ unit ∈ expected.filterMap fun t =>
      (reader? t).bind fun read => taken t blank (read rest), unit.what.Spells unit.text := by
    intro blank rest unit hunit
    obtain ⟨what, -, hread⟩ := List.mem_filterMap.mp hunit
    exact spells_of_reader rfl (fun _ => rfl) (fun _ h => (Option.some.inj h).symm) hread
  unfold ordinary at h
  dsimp only at h
  split at h
  · split at h
    · cases h
      trivial
    · obtain ⟨unit, hunit, rfl⟩ := Option.map_eq_some_iff.mp h
      exact hedge unit hunit
  · generalize hbest : longest _ = best? at h
    have hspells : ∀ unit ∈ best?, unit.what.Spells unit.text := by
      rintro unit rfl
      rcases List.mem_append.mp (mem_of_longest hbest) with hunit | hunit
      · rcases List.mem_append.mp hunit with hunit | hunit
        · have hsign := mem_of_longest (Option.mem_toList.mp hunit)
          exact hfound _ _ unit (List.mem_filter.mp hsign).1
        · split at hunit
          · rename_i edge hcase
            split at hunit
            · cases hunit
            · rw [List.mem_singleton.mp hunit]
              exact hedge edge hcase
          · cases hunit
      · rcases List.mem_append.mp hunit with hunit | hunit
        · exact hfound _ _ unit (List.mem_filter.mp hunit).1
        · exact spells_of_nameOrWord (Option.mem_toList.mp hunit)
    split at h
    · obtain ⟨unit, hunit, rfl⟩ := Option.map_eq_some_iff.mp h
      exact hspells unit hunit
    · rename_i c hc
      have hcomment : Next.IsSpelled (.comment c) := by
        rw [Next.IsSpelled, what_of_taken hc]
        rfl
      split at h
      · cases h
        exact hcomment
      · split at h
        · cases h
          exact hspells _ rfl
        · cases h
          exact hcomment

/-- What comes next is spelled as it should be. -/
theorem isSpelled_of_next? {next : Next} (h : next? expected s = some next) :
    Next.IsSpelled next := by
  rcases Option.or_eq_some_iff.mp h with hspecial | ⟨-, hplain⟩
  · exact isSpelled_of_special hspecial
  · unfold plain? at hplain
    split at hplain
    · rename_i hfound
      cases hplain
      obtain ⟨_, what, _, -, hread, -⟩ := List.findSome?_eq_some_iff.mp hfound
      exact spells_of_reader rfl (fun _ => rfl) (by rintro _ ⟨⟩) hread
    · exact isSpelled_of_ordinary hplain

end Token

end Restack.Script
