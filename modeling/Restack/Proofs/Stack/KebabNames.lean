import Mathlib.Data.List.Basic
import Restack.Outline.Vue
import Restack.Proofs.Outline.Declarations
import Restack.Proofs.Stack.Paths

/-!
# Names in small letters with dashes

A name of letters and digits is read back from its form with dashes: each dash stands where a
capital stood, and only the capital at the beginning of a name has none. So names that differ have
different forms, and components that differ in their names become files that differ in their
selectors and paths.
-/

namespace Restack.Stack

open Restack.Text
open Outline (isNameChar toNat_lt_of_isNameChar)
open Target (isCapital)

section Letters

variable {c : Char} {s : List Char}

/-- The codes of capitals stand in a row. -/
theorem toNat_of_isCapital (h : isCapital c = true) : 65 ≤ c.toNat ∧ c.toNat ≤ 90 := by
  simp only [isCapital, Bool.and_eq_true, decide_eq_true_eq] at h
  exact h

/-- A text of ASCII is put into lower case letter by letter. -/
theorem lower_of_ascii (h : ∀ c ∈ s, c.toNat < 128) : lower s = s.flatMap lowerChar := by
  have hgo : ∀ before, lower.go before s = s.flatMap lowerChar := by
    induction s with
    | nil => exact fun _ => rfl
    | cons c rest ih =>
      intro before
      obtain ⟨hc, hrest⟩ := List.forall_mem_cons.mp h
      have hsigma : ¬(c.toNat == 0x3A3) = true := by
        rw [beq_iff_eq]
        omega
      rw [lower.go, if_neg hsigma, ih hrest, List.flatMap_cons]
  exact hgo []

/-- The small letter of a capital. -/
def smallOf (c : Char) : Char := Char.ofNat (c.toNat + 32)

/-- The code of a small letter is that of the capital and 32. -/
theorem toNat_smallOf (h : isCapital c = true) : (smallOf c).toNat = c.toNat + 32 := by
  have hcode := toNat_of_isCapital h
  have hvalid : (c.toNat + 32).isValidChar := .inl (by omega)
  rw [smallOf, Char.ofNat, dif_pos hvalid]
  rfl

/-- A capital becomes its small letter. -/
theorem lowerChar_of_isCapital (h : isCapital c = true) : lowerChar c = [smallOf c] := by
  have hcode := toNat_of_isCapital h
  have hcapital : ('A' ≤ c && c ≤ 'Z') = true := h
  rw [lowerChar, if_pos (by omega), if_pos hcapital]
  rfl

/-- A character of names that is no capital stays as it is in small letters. -/
theorem lowerChar_of_isNameChar (hname : isNameChar c = true) (h : isCapital c = false) :
    lowerChar c = [c] := by
  have hcode := toNat_lt_of_isNameChar hname
  have hcapital : ¬('A' ≤ c && c ≤ 'Z') = true := Bool.eq_false_iff.mp h
  rw [lowerChar, if_pos hcode, if_neg hcapital]

/-- A capital is the upper case of its small letter. -/
theorem upperChar_smallOf (h : isCapital c = true) : upperChar (smallOf c) = [c] := by
  have hcode := toNat_of_isCapital h
  have hsmall := toNat_smallOf h
  have hletter : ('a' ≤ smallOf c && smallOf c ≤ 'z') = true := by
    have hbounds : 97 ≤ (smallOf c).toNat ∧ (smallOf c).toNat ≤ 122 := by omega
    simpa [Char.le_def, UInt32.le_iff_toNat_le] using hbounds
  rw [upperChar, if_pos (by omega), if_pos hletter, hsmall, Nat.add_sub_cancel, Char.ofNat_toNat]

/-- Digits stay as they are in capitals. -/
theorem upperChar_of_isAsciiDigit (h : isAsciiDigit c = true) : upperChar c = [c] := by
  have hcode := toNat_of_isAsciiDigit h
  have hletter : ¬('a' ≤ c && c ≤ 'z') = true := by
    have hbelow : ¬97 ≤ c.toNat := by omega
    simpa [Char.le_def, UInt32.le_iff_toNat_le] using fun h => absurd h hbelow
  rw [upperChar, if_pos (by omega), if_neg hletter]

/-- The small letter of a capital is a character of names. -/
theorem isNameChar_smallOf (h : isCapital c = true) : isNameChar (smallOf c) = true := by
  have hcode := toNat_of_isCapital h
  have hsmall := toNat_smallOf h
  have hbounds : 97 ≤ (smallOf c).toNat ∧ (smallOf c).toNat ≤ 122 := by omega
  have hletter : ('a' ≤ smallOf c && smallOf c ≤ 'z') = true := by
    simpa [Char.le_def, UInt32.le_iff_toNat_le] using hbounds
  rw [isNameChar, isAsciiLetter, hletter]
  rfl

end Letters

section Words

variable {c : Char} {s name : List Char}

/-- The stretches of letters and digits, those without any included. -/
def stretches (s : List Char) : List (List Char) :=
  splitOnChar ' ' (s.map fun c => if isNameChar c then c else ' ')

/-- The words of a text are its stretches that are not empty. -/
theorem asciiWords_eq (s : List Char) :
    Outline.asciiWords s = (stretches s).filter (!·.isEmpty) := rfl

/-- A dash begins a new stretch. -/
theorem stretches_dash (s : List Char) : stretches ('-' :: s) = [] :: stretches s := rfl

/-- A character of names goes on with the stretch. -/
theorem stretches_cons (hc : isNameChar c = true) {first : List Char} {others : List (List Char)}
    (h : stretches s = first :: others) : stretches (c :: s) = (c :: first) :: others := by
  have hblank : (c == ' ') = false := by
    refine beq_false_of_ne ?_
    rintro rfl
    cases hc
  rw [stretches, List.map_cons, if_pos hc, splitOnChar, hblank, if_neg Bool.false_ne_true]
  rw [stretches] at h
  rw [h]

/-- A name with a dash in front of the small letter of each of its capitals. -/
def dashed (name : List Char) : List Char :=
  name.flatMap fun c => if isCapital c then ['-', smallOf c] else [c]

/-- The stretches of a name with dashes: up to its first capital it is as it was, and from there on
the stretches that are capitalized make it up. -/
theorem exists_stretches_dashed (h : ∀ c ∈ name, isNameChar c = true) :
    ∃ others, stretches (dashed name) = name.takeWhile (!isCapital ·) :: others ∧
      (others.filter (!·.isEmpty)).flatMap capitalize = name.dropWhile (!isCapital ·) := by
  induction name with
  | nil => exact ⟨[], rfl, rfl⟩
  | cons c rest ih =>
    obtain ⟨hc, hrest⟩ := List.forall_mem_cons.mp h
    obtain ⟨others, hstretches, hcapitalized⟩ := ih hrest
    cases hcapital : isCapital c with
    | false =>
      have hdashed : dashed (c :: rest) = c :: dashed rest := by
        rw [dashed, List.flatMap_cons, hcapital, if_neg Bool.false_ne_true]
        rfl
      refine ⟨others, ?_, ?_⟩
      · rw [hdashed, stretches_cons hc hstretches, List.takeWhile_cons_of_pos (by simp [hcapital])]
      · rw [hcapitalized, List.dropWhile_cons_of_pos (by simp [hcapital])]
    | true =>
      have hdashed : dashed (c :: rest) = '-' :: smallOf c :: dashed rest := by
        rw [dashed, List.flatMap_cons, hcapital, if_pos rfl]
        rfl
      refine ⟨(smallOf c :: rest.takeWhile (!isCapital ·)) :: others, ?_, ?_⟩
      · rw [hdashed, stretches_dash, stretches_cons (isNameChar_smallOf hcapital) hstretches,
          List.takeWhile_cons_of_neg (by simp [hcapital])]
      · rw [List.filter_cons_of_pos rfl, List.flatMap_cons, hcapitalized, capitalize,
          upperChar_smallOf hcapital, List.dropWhile_cons_of_neg (by simp [hcapital]),
          List.append_assoc, List.takeWhile_append_dropWhile]
        rfl

/-- A name in small letters has a dash before each that was a capital, but for the first. -/
theorem kebabCase_eq (h : ∀ c ∈ name, isNameChar c = true) :
    kebabCase name = (dashed name).dropWhile (· == '-') := by
  have hascii : ∀ c ∈ name.flatMap fun c => if isCapital c then ['-', c] else [c],
      c.toNat < 128 := by
    intro d hd
    obtain ⟨c, hc, hd⟩ := List.mem_flatMap.mp hd
    have hcode := toNat_lt_of_isNameChar (h c hc)
    split at hd
    · rcases List.mem_pair.mp hd with rfl | rfl
      · decide
      · exact hcode
    · rwa [List.mem_singleton.mp hd]
  have hletters : ∀ c ∈ name,
      (if isCapital c then ['-', c] else [c]).flatMap lowerChar =
        if isCapital c then ['-', smallOf c] else [c] := by
    intro c hc
    split
    · rename_i hcapital
      have hdash : lowerChar '-' = ['-'] := rfl
      rw [List.flatMap_cons, List.flatMap_singleton, hdash, lowerChar_of_isCapital hcapital]
      rfl
    · rename_i hcapital
      rw [List.flatMap_singleton, lowerChar_of_isNameChar (h c hc) (Bool.eq_false_iff.mpr hcapital)]
  rw [kebabCase, lower_of_ascii hascii, List.flatMap_assoc, List.flatMap_congr hletters]
  rfl

/-- A dash at the beginning is no part of a stretch. -/
theorem asciiWords_dropWhile (s : List Char) :
    Outline.asciiWords (s.dropWhile (· == '-')) = Outline.asciiWords s := by
  induction s with
  | nil => rfl
  | cons c rest ih =>
    cases hc : c == '-' with
    | false => rw [List.dropWhile_cons_of_neg (by simp [hc])]
    | true =>
      obtain rfl := beq_iff_eq.mp hc
      exact ih

end Words

/-- A name of letters and digits of ASCII that does not begin with a small letter. -/
structure IsPlainName (name : List Char) : Prop where
  ne_nil : name ≠ []
  plain : ∀ c ∈ name, isNameChar c = true
  start : ∀ c ∈ name.head?, ('a' ≤ c && c ≤ 'z') = false

/-- A name is read back from its form with dashes. -/
theorem pascalCase_kebabCase {name : List Char} (h : IsPlainName name) :
    Outline.pascalCase (kebabCase name) = name := by
  obtain ⟨others, hstretches, hcapitalized⟩ := exists_stretches_dashed h.plain
  have hwords : (Outline.asciiWords (kebabCase name)).flatMap capitalize = name := by
    rw [kebabCase_eq h.plain, asciiWords_dropWhile, asciiWords_eq, hstretches]
    obtain ⟨c, rest, rfl⟩ := List.exists_cons_of_ne_nil h.ne_nil
    cases hcapital : isCapital c with
    | true =>
      rw [List.takeWhile_cons_of_neg (by simp [hcapital])]
      rw [List.dropWhile_cons_of_neg (by simp [hcapital])] at hcapitalized
      exact hcapitalized
    | false =>
      -- A first character that is neither a capital nor a small letter is a digit.
      have hdigit : isAsciiDigit c = true := by
        have hname := h.plain c List.mem_cons_self
        have hletter : isAsciiLetter c = false := by
          rw [isAsciiLetter, h.start c rfl, Bool.false_or]
          exact hcapital
        rwa [isNameChar, hletter, Bool.false_or] at hname
      rw [List.takeWhile_cons_of_pos (by simp [hcapital])]
      rw [List.dropWhile_cons_of_pos (by simp [hcapital])] at hcapitalized
      rw [List.filter_cons_of_pos rfl, List.flatMap_cons, hcapitalized, capitalize,
        upperChar_of_isAsciiDigit hdigit, List.append_assoc, List.takeWhile_append_dropWhile]
      rfl
  rw [Outline.pascalCase, hwords, if_neg (by simpa using h.ne_nil)]

/-- Names that differ have different forms with dashes. -/
theorem kebabCase_injOn {name other : List Char} (hname : IsPlainName name)
    (hother : IsPlainName other) (h : kebabCase name = kebabCase other) : name = other := by
  rw [← pascalCase_kebabCase hname, h, pascalCase_kebabCase hother]

/-- There is no apostrophe in a name in small letters. -/
theorem quote_not_mem_kebabCase {name : List Char} (h : ∀ c ∈ name, isNameChar c = true) :
    '\x27' ∉ kebabCase name := by
  intro hmem
  rw [kebabCase_eq h] at hmem
  obtain ⟨c, hc, hquote⟩ := List.mem_flatMap.mp ((List.dropWhile_suffix _).subset hmem)
  split at hquote
  · rename_i hcapital
    rcases List.mem_pair.mp hquote with hdash | hsmall
    · exact absurd hdash (by decide)
    · have hname := isNameChar_smallOf hcapital
      rw [← hsmall] at hname
      cases hname
  · have hname := h c hc
    rw [← List.mem_singleton.mp hquote] at hname
    cases hname

/-- The selector of the class in a file: what stands between quotes behind the word. -/
def Angular.selectorOf? (content : String) : Option (List Char) :=
  (cutAt "selector: '".toList content.toList).map fun halves => halves.2.takeWhile (· != '\x27')

/-- Joined lines begin with the first and a line feed. -/
theorem toList_joined_cons (line next : String) (rest : List String) :
    (joined "\n" (line :: next :: rest)).toList =
      line.toList ++ '\n' :: (joined "\n" (next :: rest)).toList := by
  simp only [joined, String.toList_ofList, List.map_cons]
  rw [joinWith, List.append_assoc]
  · rfl
  · exact List.cons_ne_nil _ _

/-- A text stands in front of what is appended to it. -/
theorem prefix_toList_append (s t : String) : s.toList <+: (s ++ t).toList := by
  rw [String.toList_append]
  exact List.prefix_append _ _

/-- What lines begin with, up to the end of the fourth. -/
theorem prefix_joined_fourth {first second third fourth next : String} {rest : List String}
    {before text : List Char} (hfourth : fourth.toList = before ++ text) :
    (first.toList ++ '\n' :: (second.toList ++ '\n' :: (third.toList ++ '\n' :: before))) ++
      text <+: (joined "\n" (first :: second :: third :: fourth :: next :: rest)).toList := by
  refine ⟨'\n' :: (joined "\n" (next :: rest)).toList, ?_⟩
  simp only [toList_joined_cons, hfourth, List.append_assoc, List.cons_append]

/-- All that stands before the selector of a class. -/
def Angular.selectorStart : List Char :=
  "import \x7b Component \x7d from '@angular/core';".toList ++ '\n' ::
    ("".toList ++ '\n' :: ("@Component(\x7b".toList ++ '\n' :: "  selector: '".toList))

/-- A selector is read back from the content that has it between apostrophes. -/
theorem Angular.selectorOf?_eq {content : String} {selector : List Char}
    (hcontent : selectorStart ++ (selector ++ ['\x27', ',']) <+: content.toList)
    (hselector : '\x27' ∉ selector) : selectorOf? content = some selector := by
  obtain ⟨tail, hcontent⟩ := hcontent
  have hcut : cutAt "selector: '".toList (selectorStart ++ (selector ++ '\x27' :: ',' :: tail)) =
      some (selectorStart.take (selectorStart.length - 11), selector ++ '\x27' :: ',' :: tail) :=
    rfl
  have hkept : ∀ c ∈ selector, (c != '\x27') = true := fun c hc =>
    bne_iff_ne.mpr fun heq => hselector (heq ▸ hc)
  rw [List.append_assoc, List.append_assoc] at hcontent
  rw [selectorOf?, ← hcontent]
  refine (congrArg _ hcut).trans ?_
  rw [Option.map_some, List.takeWhile_append_of_pos hkept, List.takeWhile_cons_of_neg (by simp),
    List.append_nil]

/-- A component becomes a file whose selector and path have the name in its form with dashes. -/
theorem Angular.selectorOf?_convert {component : Outline.Component}
    (h : IsPlainName component.name.toList) :
    ∃ file, Form.angular.convert component.toValue = .ok file ∧
      Form.angular.Makes component file ∧
      selectorOf? file.content = some ("app-" ++ kebabCased component.name).toList := by
  obtain ⟨declarations, hdeclarations⟩ := Form.angular.mapM_declaration_isOk component
  have hname : nameOf component.toValue = .ok (.str component.name) := rfl
  have hstate : stateOf component.toValue =
      .ok (component.state.map Outline.StateVariable.toValue) := Value.elementsOf_list rfl
  have hfile : fileOf component.toValue = .ok component.file := rfl
  have hkebab : (kebabCased component.name).toList = kebabCase component.name.toList :=
    String.toList_ofList
  have hselector : '\x27' ∉ ("app-" ++ kebabCased component.name).toList := by
    rw [String.toList_append, hkebab]
    exact List.not_mem_append (by decide) (quote_not_mem_kebabCase h.plain)
  have hline : ("  selector: 'app-" ++ kebabCased component.name ++ "',").toList =
      "  selector: '".toList ++
        (("app-" ++ kebabCased component.name).toList ++ ['\x27', ',']) := by
    simp
  refine bind_isOk_and_of_eq hname (bind_isOk_and_of_eq hname (bind_isOk_and_of_eq rfl ?_))
  refine bind_isOk_and_of_eq hstate (bind_isOk_and_of_eq hdeclarations
    (bind_isOk_and_of_eq hfile ?_))
  refine ⟨_, rfl, ⟨rfl, rfl, Nat.succ_pos _⟩, selectorOf?_eq ?_ hselector⟩
  change selectorStart ++ _ <+: (_ ++ joined "" declarations ++ "\x7d\n").toList
  unfold selectorStart
  exact (prefix_joined_fourth hline).trans ((prefix_toList_append _ _).trans
    (prefix_toList_append _ _))

/-- **A name is read back from its form with dashes.** So no two components whose names differ have
a selector or a path in common. -/
theorem pascalCased_kebabCased {name : String} (h : IsPlainName name.toList) :
    Outline.pascalCased (kebabCased name) = name ∧
      ∀ component other : Outline.Component, component.name = name →
        IsPlainName other.name.toList → other.name ≠ name →
        ∃ file otherFile, Form.angular.convert component.toValue = .ok file ∧
          Form.angular.convert other.toValue = .ok otherFile ∧
          Angular.selectorOf? file.content = some ("app-" ++ kebabCased name).toList ∧
          Angular.selectorOf? otherFile.content ≠ Angular.selectorOf? file.content ∧
          otherFile.path ≠ file.path := by
  refine ⟨?_, ?_⟩
  · rw [Outline.pascalCased, kebabCased, String.toList_ofList, pascalCase_kebabCase h,
      String.ofList_toList]
  · rintro component other rfl hother hne
    have hkebab : kebabCased other.name ≠ kebabCased component.name := fun heq =>
      hne (String.toList_inj.mp (kebabCase_injOn hother h (String.ofList_injective heq)))
    obtain ⟨file, hfile, hmakes, hselector⟩ := Angular.selectorOf?_convert h
    obtain ⟨otherFile, hotherFile, hotherMakes, hotherSelector⟩ :=
      Angular.selectorOf?_convert hother
    refine ⟨file, otherFile, hfile, hotherFile, hselector, ?_, ?_⟩
    · rw [hselector, hotherSelector]
      intro heq
      exact hkebab ((String.append_right_inj _).mp (String.toList_inj.mp (Option.some.inj heq)))
    · rw [hmakes.path, hotherMakes.path]
      exact fun heq => hkebab (Form.angular.path_injective heq)

/-- A component of which only the name is told. -/
def componentNamed (name : String) : Outline.Component :=
  ⟨name, "src/Card.jsx", 1, 1, "functional", [], [], [], [], [], [], [], ⟨"none", [], []⟩, []⟩

/-- Names that differ in the case of their letters only. -/
theorem pascalCased_kebabCased_cards :
    IsPlainName "XMLCard2".toList ∧ Outline.pascalCased (kebabCased "XMLCard2") = "XMLCard2" ∧
      ∃ file otherFile, Form.angular.convert (componentNamed "XMLCard2").toValue = .ok file ∧
        Form.angular.convert (componentNamed "XmlCard2").toValue = .ok otherFile ∧
        Angular.selectorOf? file.content = some "app-x-m-l-card2".toList ∧
        Angular.selectorOf? otherFile.content ≠ Angular.selectorOf? file.content ∧
        otherFile.path ≠ file.path := by
  have hname : IsPlainName "XMLCard2".toList :=
    ⟨by decide, List.all_eq_true.mp rfl, by rintro c ⟨⟩; rfl⟩
  have hother : IsPlainName "XmlCard2".toList :=
    ⟨by decide, List.all_eq_true.mp rfl, by rintro c ⟨⟩; rfl⟩
  have hkebab : kebabCased "XMLCard2" = "x-m-l-card2" := rfl
  obtain ⟨hread, hdistinct⟩ := pascalCased_kebabCased hname
  have hfiles := hdistinct (componentNamed "XMLCard2") (componentNamed "XmlCard2") rfl hother
    (by decide)
  rw [hkebab] at hfiles
  exact ⟨hname, hread, hfiles⟩

end Restack.Stack
