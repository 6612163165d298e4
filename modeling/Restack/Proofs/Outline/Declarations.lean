import Restack.Outline.Angular
import Restack.Outline.React
import Restack.Proofs.Text.Matching
import Restack.Proofs.Text.Trimming

/-!
# Lines that declare a component

A component is declared by a keyword, a name that begins with a capital, and something that is no
part of the name. The name is read as a whole from such a line, whatever comes after it.
-/

namespace Restack.Outline

open Restack.Text
open Pattern Spot

/-- Characters of a name behind its capital. -/
def isNameChar (c : Char) : Bool :=
  isAsciiLetter c || isAsciiDigit c

/-- A name that begins with a capital, with nothing but letters and digits of ASCII. -/
def isCapitalized (name : List Char) : Bool :=
  name.head?.any (fun c => 'A' ≤ c && c ≤ 'Z') && name.all isNameChar

section Names

variable {name tail : List Char} {spot : Spot} {next : Spot → Option Spot} {n : Nat} {c : Char}

/-- Capitals are characters of names. -/
theorem isNameChar_of_capital (h : ('A' ≤ c && c ≤ 'Z') = true) : isNameChar c = true := by
  simp only [isNameChar, isAsciiLetter, h, Bool.or_true, Bool.true_or]

/-- There are no blanks among the characters of names. -/
theorem isBlank_of_isNameChar (h : isNameChar c = true) : isBlank c = false := by
  rcases Bool.or_eq_true_iff.mp h with hletter | hdigit
  · exact isBlank_of_isAsciiLetter hletter
  · exact isBlank_of_isAsciiDigit hdigit

/-- The characters of names are in ASCII. -/
theorem toNat_lt_of_isNameChar (h : isNameChar c = true) : c.toNat < 128 := by
  rcases Bool.or_eq_true_iff.mp h with hletter | hdigit
  · have hcode := toNat_of_isAsciiLetter hletter
    omega
  · have hcode := toNat_of_isAsciiDigit hdigit
    omega

/-- The characters of names are those of words. -/
theorem isWordChar_of_isNameChar (h : isNameChar c = true) : isWordChar c = true := by
  have hkind : (isAsciiLetter c || isAsciiDigit c) = true := h
  rw [isWordChar, if_pos (toNat_lt_of_isNameChar h), hkind, Bool.true_or]

/-- A capitalized name is made of the characters of names. -/
theorem isNameChar_of_mem (hname : isCapitalized name = true) (hc : c ∈ name) :
    isNameChar c = true :=
  List.all_eq_true.mp (Bool.and_eq_true_iff.mp hname).2 c hc

/-- No other characters are in a capitalized name. -/
theorem not_mem_of_isCapitalized (hname : isCapitalized name = true)
    (hc : isNameChar c = false) : c ∉ name := fun hmem => by
  rw [isNameChar_of_mem hname hmem] at hc
  cases hc

/-- A name is taken as a whole where it ends with something that is no part of it. -/
theorem follow_capitalized (hname : isCapitalized name = true)
    (htail : tail.head?.any isNameChar = false) (hrest : spot.rest = name ++ tail)
    (hnext : (next ⟨name.getLast?, tail, spot.pos + name.length,
      ⟨n, spot.pos, name⟩ :: spot.captures⟩).isSome) :
    (group n capitalized).follow next spot = next ⟨name.getLast?, tail, spot.pos + name.length,
      ⟨n, spot.pos, name⟩ :: spot.captures⟩ := by
  have hcapital := (Bool.and_eq_true_iff.mp hname).1
  have hkind : ∀ c ∈ name, isNameChar c = true := fun c => isNameChar_of_mem hname
  have htaken : spot.rest.takeWhile isNameChar = name := takeWhile_rest hrest hkind htail
  have hleft : spot.rest.dropWhile isNameChar = tail := rest_past hrest hkind htail
  have hkept : ((spot.past isNameChar).keep n spot.pos (spot.rest.takeWhile isNameChar)) =
      ⟨name.getLast?, tail, spot.pos + name.length, ⟨n, spot.pos, name⟩ :: spot.captures⟩ := by
    cases name with
    | nil => cases hcapital
    | cons c others => simp [Spot.past, Spot.keep, htaken, hleft, List.getLast?_cons]
  have hmeets : spot.meets (fun c => 'A' ≤ c && c ≤ 'Z') = true := by
    cases name with
    | nil => cases hcapital
    | cons c others => exact (Spot.meets_cons hrest).trans hcapital
  rw [← hkept] at hnext ⊢
  exact follow_group_of_isSome (fun c => isNameChar_of_capital) hmeets hnext

/-- One blank before a text that begins with none. -/
theorem follow_blanks1 {rest : List Char} (hrest : spot.rest = ' ' :: rest)
    (hblank : rest.head?.any isBlank = false) :
    blanks1.follow next spot = next (spot.advance ' ' rest) := by
  change (one isBlank).follow ((run isBlank).follow next) spot = _
  have hmeets : (spot.advance ' ' rest).meets isBlank = false := hblank
  rw [follow_one_of_meets hrest rfl, follow_run_of_not_meets hmeets]

/-- A capitalized name does not begin with a blank. -/
theorem head?_name_append (hname : isCapitalized name = true) :
    (name ++ tail).head?.any isBlank = false := by
  cases name with
  | nil => cases hname
  | cons c others => exact isBlank_of_isNameChar (isNameChar_of_mem hname List.mem_cons_self)

end Names

namespace React

variable {name tail : List Char}

/-- A name ends at a word edge if no word goes on behind it. -/
theorem atWordEdge_of_name (hname : isCapitalized name = true)
    (htail : tail.head?.any isWordChar = false) (pos : Nat) (captures : List Capture) :
    (⟨name.getLast?, tail, pos, captures⟩ : Spot).atWordEdge = true := by
  have hbefore : name.getLast?.any isWordChar = true := by
    cases name with
    | nil => cases hname
    | cons c others =>
      rw [List.getLast?_eq_some_getLast (List.cons_ne_nil _ _), Option.any_some]
      exact isWordChar_of_isNameChar (isNameChar_of_mem hname (List.getLast_mem _))
  rw [Spot.atWordEdge, hbefore, htail]
  rfl

/-- A blank and a name, with nothing behind that could be part of a word. -/
theorem follow_nameBehindBlank (hname : isCapitalized name = true)
    (htail : tail.head?.any isWordChar = false) (before : Option Char) (pos : Nat) :
    blanks1.follow ((group 1 capitalized).follow (wordEdge.follow some))
        ⟨before, ' ' :: (name ++ tail), pos, []⟩ =
      some ⟨name.getLast?, tail, pos + 1 + name.length, [⟨1, pos + 1, name⟩]⟩ := by
  have hstop : tail.head?.any isNameChar = false := by
    cases tail with
    | nil => rfl
    | cons c rest =>
      refine Bool.eq_false_iff.mpr fun hc => ?_
      rw [List.head?_cons, Option.any_some, isWordChar_of_isNameChar hc] at htail
      cases htail
  have hend : ∀ pos captures, wordEdge.follow some ⟨name.getLast?, tail, pos, captures⟩ =
      some ⟨name.getLast?, tail, pos, captures⟩ := fun pos captures =>
    if_pos (atWordEdge_of_name hname htail pos captures)
  rw [follow_blanks1 rfl (head?_name_append hname), follow_capitalized hname hstop rfl]
  · exact hend _ _
  · exact Option.isSome_of_eq_some (hend _ _)

/-- The name behind a keyword, as the declaration of a function or a constant has it. -/
theorem group_functionPattern {keyword : String} (hkeyword : keyword ∈ ["const", "function"])
    (hname : isCapitalized name = true) (htail : tail.head?.any isWordChar = false) :
    (functionPattern.matchStart? (String.ofList (keyword.toList ++ ' ' :: (name ++ tail)))).map
      (·.group 1) = some (String.ofList name) := by
  have hread := follow_nameBehindBlank hname htail
  obtain ⟨pos, start, hmatch⟩ : ∃ pos start, functionPattern.follow some
      (Spot.start (keyword.toList ++ ' ' :: (name ++ tail))) =
        some ⟨name.getLast?, tail, pos, [⟨1, start, name⟩]⟩ := by
    simp only [List.mem_cons, List.not_mem_nil, or_false] at hkeyword
    rcases hkeyword with rfl | rfl
    · have hfirst : functionPattern.follow some
          (Spot.start ("const".toList ++ ' ' :: (name ++ tail))) =
            (alt (text "const") (text "function")).follow
              (blanks1.follow ((group 1 capitalized).follow (wordEdge.follow some)))
              (Spot.start ("const".toList ++ ' ' :: (name ++ tail))) := rfl
      exact ⟨_, _, hfirst.trans (follow_alt_of_eq_some (hread (some 't') 5))⟩
    · have hsecond : functionPattern.follow some
          (Spot.start ("function".toList ++ ' ' :: (name ++ tail))) =
            blanks1.follow ((group 1 capitalized).follow (wordEdge.follow some))
              ⟨some 'n', ' ' :: (name ++ tail), 8, []⟩ := rfl
      rw [hread] at hsecond
      exact ⟨_, _, hsecond⟩
  have hstart : functionPattern.matchFrom? (Spot.start (keyword.toList ++ ' ' :: (name ++ tail))) =
      some (⟨0, pos, [⟨1, start, name⟩]⟩, ⟨name.getLast?, tail, pos, [⟨1, start, name⟩]⟩) :=
    congrArg (Option.map fun reached : Spot =>
      ((⟨0, reached.pos, reached.captures⟩ : Match), reached)) hmatch
  rw [Pattern.matchStart?, String.toList_ofList, hstart]
  rfl

/-- What stands before a name and the name itself are not trimmed. -/
theorem trim_keyword {keyword : String} (hkeyword : keyword ∈ ["const", "function"])
    (hname : isCapitalized name = true) (tail : List Char) :
    trim (keyword.toList ++ ' ' :: (name ++ tail)) =
      keyword.toList ++ ' ' :: (name ++ dropTail isBlank tail) := by
  have hne : name ≠ [] := by
    rintro rfl
    cases hname
  have hfront : IsTrimmed (keyword.toList ++ ' ' :: name) := by
    constructor
    · intro c hc
      simp only [List.mem_cons, List.not_mem_nil, or_false] at hkeyword
      rcases hkeyword with rfl | rfl <;> cases hc <;> rfl
    · intro c hc
      have hlast : (keyword.toList ++ ' ' :: name).getLast? = name.getLast? := by
        rw [List.getLast?_append, List.getLast?_cons, List.getLast?_eq_some_getLast hne]
        rfl
      rw [hlast] at hc
      exact isBlank_of_isNameChar (isNameChar_of_mem hname (List.mem_of_mem_getLast? hc))
  have htext : ∀ more, keyword.toList ++ ' ' :: (name ++ more) =
      (keyword.toList ++ ' ' :: name) ++ more := by simp
  rw [htext, hfront.trim_append (by simp), ← htext]

/-- A function is not taken for a constant. -/
theorem isConstant_function (hname : isCapitalized name = true) (tail : List Char) (s : String) :
    isConstant s (trimmed (String.ofList ("function".toList ++ ' ' :: (name ++ tail)))) =
      false := by
  have hword : ∀ more, functionWord.occursIn (String.ofList ("function".toList ++ ' ' :: more)) =
      true := by
    intro more
    rw [Pattern.occursIn, Pattern.search?, String.toList_ofList]
    rfl
  rw [trimmed, String.toList_ofList, trim_keyword (by simp) hname, isConstant, hword, Bool.not_true,
    Bool.and_false]

/-- A line on which a name stands behind `const` or `function` declares a component, unless it is
taken for a constant. -/
theorem declared?_keyword {keyword : String} (hkeyword : keyword ∈ ["const", "function"])
    (hname : isCapitalized name = true) (htail : tail.head?.any isWordChar = false)
    (hconstant : isConstant (String.ofList name)
      (trimmed (String.ofList (keyword.toList ++ ' ' :: (name ++ tail)))) = false) :
    declared? (String.ofList (keyword.toList ++ ' ' :: (name ++ tail))) =
      some (String.ofList name, .functional) := by
  have hkept : (dropTail isBlank tail).head?.any isWordChar = false := by
    obtain ⟨dropped, hdropped⟩ := isPrefix_dropTail isBlank tail
    cases hhead : dropTail isBlank tail with
    | nil => rfl
    | cons c others =>
      rw [hhead] at hdropped
      rw [← hdropped] at htail
      exact htail
  have hstart : (keyword.toList ++ ' ' :: (name ++ tail)).head?.any isBlank = false := by
    simp only [List.mem_cons, List.not_mem_nil, or_false] at hkeyword
    rcases hkeyword with rfl | rfl <;> rfl
  have hpattern := group_functionPattern hkeyword hname hkept
  rw [trimmed, String.toList_ofList, trim_keyword hkeyword hname] at hconstant
  unfold declared?
  rw [trimmed, String.toList_ofList, trim_keyword hkeyword hname, hstart,
    if_neg Bool.false_ne_true]
  dsimp only
  rw [hpattern]
  dsimp only
  rw [hconstant, if_neg Bool.false_ne_true]

end React

namespace Angular

variable {name tail : List Char}

/-- A line of an exported class, up to the name of the class. -/
def classStart : List Char := "export class ".toList

/-- The name of an exported class, as its declaration has it. -/
theorem group_classPattern (hname : isCapitalized name = true)
    (htail : tail.head?.any isNameChar = false) :
    ∃ m, classPattern.search? (String.ofList (classStart ++ (name ++ tail))) = some m ∧
      m.group 1 = String.ofList name := by
  have hread : blanks1.follow ((group 1 capitalized).follow some)
      ⟨some 's', ' ' :: (name ++ tail), 12, []⟩ =
        some ⟨name.getLast?, tail, 13 + name.length, [⟨1, 13, name⟩]⟩ := by
    rw [follow_blanks1 rfl (head?_name_append hname), follow_capitalized hname htail rfl rfl]
    rfl
  have hmatch : classPattern.matchFrom? ⟨some ' ', "class ".toList ++ (name ++ tail), 7, []⟩ =
      some (⟨7, 13 + name.length, [⟨1, 13, name⟩]⟩,
        ⟨name.getLast?, tail, 13 + name.length, [⟨1, 13, name⟩]⟩) :=
    congrArg (Option.map fun reached : Spot =>
      ((⟨7, reached.pos, reached.captures⟩ : Match), reached)) hread
  have hsearch : classPattern.searchFrom? (Spot.start (classStart ++ (name ++ tail))) =
      classPattern.searchFrom? ⟨some ' ', "class ".toList ++ (name ++ tail), 7, []⟩ := rfl
  rw [Pattern.search?, String.toList_ofList, hsearch, searchFrom?_of_matchFrom? hmatch]
  exact ⟨_, rfl, rfl⟩

end Angular

end Restack.Outline
