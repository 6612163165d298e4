import Restack.Proofs.Outline.BodyColumns
import Restack.Proofs.Outline.Closings
import Restack.Proofs.Outline.Declarations

/-!
# Where the component of a function ends

The component of a function ends on the line of the brace that closes its body, if the column from
which the braces are counted stands before the body and behind all braces of the parameters. That
column is found on the first line alone: it is right for an arrow function whose parameters stand on
one line, but a parenthesis or an arrow in the body, or parameters on several lines, can mislead it.
-/

namespace Restack.Outline.React

open Restack.Text

/-- A function that is a component, as it is written: with an arrow or without, its name, what
stands between the parentheses of its parameters, and what stands between the braces of its body. -/
structure FunctionText where
  isArrow : Bool
  name : List Char
  params : List Char
  body : List Char

namespace FunctionText

variable (f : FunctionText) (rest : List Char)

/-- The word that the declaration begins with. -/
def keyword : String := if f.isArrow then "const" else "function"

/-- What stands between the name and the parameters. -/
def opening : List Char := if f.isArrow then " = (".toList else ['(']

/-- What stands between the parameters and the body. -/
def closing : List Char := if f.isArrow then ") => ".toList else ") ".toList

/-- All that stands before the parameters. -/
def front : List Char := f.keyword.toList ++ ' ' :: (f.name ++ f.opening)

/-- All that stands before the body. -/
def heading : List Char := f.front ++ (f.params ++ f.closing)

/-- The function, and what stands behind it. -/
def text : List Char := f.heading ++ '\x7b' :: (f.body ++ '\x7d' :: rest)

/-- The column from which the braces of the component are counted. -/
def column : Nat := bodyColumn (firstLine (f.text rest))

/-- The braces are counted from a place before the body, and behind all braces of the parameters. -/
def CountsFromBody : Prop :=
  f.column rest ≤ f.heading.length ∧ ∀ c ∈ f.heading.drop (f.column rest), ¬IsBrace c

/-- The name can be that of a component, and braces are balanced. -/
structure WellFormed : Prop where
  name : isCapitalized f.name = true
  params : IsBalanced f.params
  body : IsBalanced f.body

variable {f rest}

/-- A function is declared with one of two words. -/
theorem keyword_mem : f.keyword ∈ ["const", "function"] := by
  unfold keyword
  split <;> simp

/-- The signs around the name and the parameters. -/
def signs : List Char := "const function=>()".toList

/-- The word that a function is declared with is made of the signs of declarations. -/
theorem keyword_subset : f.keyword.toList ⊆ signs := by
  unfold keyword
  split <;> decide

/-- What stands before the parameters is made of the signs of declarations. -/
theorem opening_subset : f.opening ⊆ signs := by
  unfold opening
  split <;> decide

/-- What stands behind the parameters is made of the signs of declarations. -/
theorem closing_subset : f.closing ⊆ signs := by
  unfold closing
  split <;> decide

/-- No sign of a declaration is a brace. -/
theorem not_isBrace_of_mem_signs {c : Char} (h : c ∈ signs) : ¬IsBrace c := by
  rintro (rfl | rfl) <;> revert h <;> decide

/-- Braces are balanced up to the body. -/
theorem WellFormed.heading (hf : f.WellFormed) : IsBalanced f.heading := by
  have hsigns : ∀ {s : List Char}, s ⊆ signs → IsBalanced s := fun hs =>
    IsBalanced.of_forall fun c hc => not_isBrace_of_mem_signs (hs hc)
  have hname : IsBalanced f.name := IsBalanced.of_forall fun c hc hbrace => by
    rcases hbrace with rfl | rfl <;> exact not_mem_of_isCapitalized hf.name rfl hc
  have hspace : IsBalanced [' '] := hsigns (by decide)
  have hfront : IsBalanced f.front :=
    (hsigns keyword_subset).append (hspace.append (hname.append (hsigns opening_subset)))
  exact hfront.append (hf.params.append (hsigns closing_subset))

/-- What stands before the parameters is on one line. -/
theorem feed_not_mem_front (hname : isCapitalized f.name = true) : '\n' ∉ f.front := by
  have hsigns : ∀ {s : List Char}, s ⊆ signs → '\n' ∉ s := fun hs hfeed =>
    absurd (hs hfeed) (by decide)
  have hfeed : '\n' ∉ f.name := not_mem_of_isCapitalized hname rfl
  simp only [front, List.mem_append, List.mem_cons, not_or]
  exact ⟨hsigns keyword_subset, by decide, hfeed, hsigns opening_subset⟩

/-- The line that declares the component begins with its keyword and its name. -/
theorem firstLine_text (hname : isCapitalized f.name = true) (rest : List Char) : ∃ tail,
    firstLine (f.text rest) = f.keyword.toList ++ ' ' :: (f.name ++ tail) ∧
      tail.head?.any isWordChar = false := by
  have htext : f.text rest =
      f.front ++ (f.params ++ (f.closing ++ '\x7b' :: (f.body ++ '\x7d' :: rest))) := by
    simp [text, FunctionText.heading]
  refine ⟨f.opening ++ firstLine (f.params ++ (f.closing ++ '\x7b' :: (f.body ++ '\x7d' :: rest))),
    ?_, ?_⟩
  · rw [htext, firstLine_append (feed_not_mem_front hname)]
    simp [front]
  · unfold opening
    split <;> rfl

/-- Nothing before the parameters is part of an arrow. -/
theorem not_mem_front (hname : isCapitalized f.name = true) :
    '>' ∉ f.front ∧ ¬['='] <:+ f.front := by
  have hsign : '>' ∉ f.name := not_mem_of_isCapitalized hname rfl
  unfold front keyword opening
  cases f.isArrow with
  | true =>
    have hfront : "const".toList ++ ' ' :: (f.name ++ " = (".toList) =
        "const ".toList ++ (f.name ++ " = ".toList) ++ ['('] := by simp
    simp only [if_true]
    rw [hfront, List.singleton_suffix_append_singleton_iff]
    exact ⟨by simp [hsign], by decide⟩
  | false =>
    have hfront : "function".toList ++ ' ' :: (f.name ++ ['(']) =
        "function ".toList ++ f.name ++ ['('] := by simp
    simp only [Bool.false_eq_true, if_false]
    rw [hfront, List.singleton_suffix_append_singleton_iff]
    exact ⟨by simp [hsign], by decide⟩

/-- What follows the heading on its last line. -/
def onHeadingLine (f : FunctionText) (rest : List Char) : List Char :=
  firstLine ('\x7b' :: (f.body ++ '\x7d' :: rest))

/-- If the parameters are on one line, so is all that stands before the body. -/
theorem firstLine_eq (hname : isCapitalized f.name = true) (hfeed : '\n' ∉ f.params)
    (rest : List Char) :
    firstLine (f.text rest) = f.heading ++ f.onHeadingLine rest := by
  refine firstLine_append fun hmem => ?_
  rcases List.mem_append.mp hmem with hmem | hmem
  · exact feed_not_mem_front hname hmem
  · rcases List.mem_append.mp hmem with hmem | hmem
    · exact hfeed hmem
    · exact absurd (closing_subset hmem) (by decide)

/-- What stands before the body of an arrow function ends with the arrow. -/
theorem heading_of_isArrow (harrow : f.isArrow = true) :
    f.heading = (f.front ++ (f.params ++ ") ".toList)) ++ (arrow ++ [' ']) := by
  simp [heading, closing, harrow, arrow]

/-- An arrow function whose parameters stand on one line is not taken for a constant. -/
theorem isConstant_of_isArrow (hname : isCapitalized f.name = true) (hfeed : '\n' ∉ f.params)
    (harrow : f.isArrow = true) (s : String) :
    isConstant s (trimmed (String.ofList (firstLine (f.text rest)))) = false := by
  have hline : firstLine (f.text rest) =
      (f.front ++ (f.params ++ ") ".toList) ++ arrow) ++ (' ' :: f.onHeadingLine rest) := by
    rw [firstLine_eq hname hfeed, heading_of_isArrow harrow]
    simp
  have htrimmed : IsTrimmed (f.front ++ (f.params ++ ") ".toList) ++ arrow) := by
    constructor
    · simp only [front, keyword, harrow, if_true]
      rintro c ⟨⟩
      rfl
    · intro c hc
      rw [List.getLast?_append] at hc
      cases hc
      rfl
  have hpart : hasPart "=>" (String.ofList (trim (firstLine (f.text rest)))) = true := by
    rw [hline, htrimmed.trim_append (by simp [arrow]), hasPart, occurs_iff_infix]
    simp only [String.toList_ofList]
    exact (List.suffix_append _ arrow).isInfix.trans (List.prefix_append _ _).isInfix
  rw [trimmed, String.toList_ofList, isConstant, hpart, Bool.not_true, Bool.and_false,
    Bool.false_and]

/-- Where the parameters of an arrow function stand on one line, the braces are counted from behind
its arrow. -/
theorem countsFromBody_of_isArrow (hname : isCapitalized f.name = true) (hfeed : '\n' ∉ f.params)
    (hparams : ¬arrow <:+: f.params) (harrow : f.isArrow = true) : f.CountsFromBody rest := by
  have hheading := heading_of_isArrow harrow
  have hfirst : ¬arrow <:+: (f.front ++ (f.params ++ ") ".toList)) ++ ['='] := by
    rw [List.append_assoc, List.append_assoc]
    exact not_arrow_infix (not_mem_front hname).1 (not_mem_front hname).2 hparams (by decide)
  have hcolumn : f.column rest = (f.front ++ (f.params ++ ") ".toList)).length + 2 := by
    rw [column, firstLine_eq hname hfeed, hheading, List.append_assoc _ (arrow ++ [' ']),
      List.append_assoc arrow, bodyColumn_of_arrow hfirst]
  unfold CountsFromBody
  rw [hcolumn, hheading, List.drop_append, List.drop_of_length_le (by omega)]
  constructor
  · simp only [List.length_append, arrow, List.length_cons, List.length_nil]
    omega
  · simp [arrow, IsBrace]

section HeadingLine

variable (hline : firstLine (f.text rest) = f.heading ++ f.onHeadingLine rest)
include hline

/-- The braces are counted from behind an arrow in the body, if there is none before. -/
theorem not_countsFromBody_of_arrow (hnone : ¬arrow <:+: f.heading)
    (hmore : arrow <:+: f.onHeadingLine rest) : ¬f.CountsFromBody rest := by
  intro hcounts
  obtain ⟨front, back, hcut, hcolumn⟩ := exists_bodyColumn
    (hmore.trans (List.suffix_append f.heading (f.onHeadingLine rest)).isInfix)
  have hle : front.length + 2 ≤ f.heading.length := by
    rw [← hcolumn, ← hline]
    exact hcounts.1
  have hfront : front ++ arrow <+: f.heading ++ f.onHeadingLine rest := by
    rw [eq_of_cutAt hcut, ← List.append_assoc]
    exact List.prefix_append _ _
  have hprefix : front ++ arrow <+: f.heading :=
    List.prefix_of_prefix_length_le hfront (List.prefix_append _ _) (by simpa [arrow] using hle)
  exact hnone ((List.suffix_append front arrow).isInfix.trans hprefix.isInfix)

/-- Without an arrow, the braces are counted from behind the last parenthesis that the body closes
on the line. -/
theorem not_countsFromBody_of_parenthesis
    (hnone : ¬arrow <:+: f.heading ++ f.onHeadingLine rest)
    (hclose : ')' ∈ f.onHeadingLine rest) : ¬f.CountsFromBody rest := by
  intro hcounts
  obtain ⟨after, before, hreverse, hlast⟩ :=
    List.eq_append_cons_of_mem (List.mem_reverse.mpr hclose)
  have hsplit : f.heading ++ f.onHeadingLine rest =
      (f.heading ++ before.reverse) ++ ')' :: after.reverse := by
    rw [← List.reverse_reverse (f.onHeadingLine rest), hreverse]
    simp
  have hcolumn : f.column rest = (f.heading ++ before.reverse).length + 1 := by
    rw [column, hline, hsplit]
    exact bodyColumn_of_parenthesis (hsplit ▸ hnone) (by simpa using hlast)
  have hle := hcounts.1
  rw [hcolumn, List.length_append] at hle
  omega

end HeadingLine

/-- Where the parameters of another function stand on one line, its braces are counted from its body
exactly if no parenthesis is closed in the body on that line, and no arrow stands there. -/
theorem countsFromBody_iff_of_not_isArrow (hname : isCapitalized f.name = true)
    (hfeed : '\n' ∉ f.params) (hparams : ¬arrow <:+: f.params) (harrow : f.isArrow = false) :
    f.CountsFromBody rest ↔ ')' ∉ f.onHeadingLine rest ∧ ¬arrow <:+: f.onHeadingLine rest := by
  have hheading : f.heading = (f.front ++ f.params) ++ ')' :: [' '] := by
    simp [heading, closing, harrow]
  have hnone : ¬arrow <:+: f.heading := by
    have hclosing : '>' ∉ f.closing := by simp [closing, harrow]
    exact not_arrow_infix (not_mem_front hname).1 (not_mem_front hname).2 hparams hclosing
  have hline := firstLine_eq hname hfeed rest
  by_cases hmore : arrow <:+: f.onHeadingLine rest
  · exact iff_of_false (not_countsFromBody_of_arrow hline hnone hmore) fun h => h.2 hmore
  have hwhole : ¬arrow <:+: f.heading ++ f.onHeadingLine rest := by
    intro h
    rcases arrow_infix_append h with h | h | h
    · exact hnone h
    · exact hmore h
    · have hblank : f.heading = (f.front ++ f.params ++ [')']) ++ [' '] := by simp [hheading]
      rw [hblank, List.singleton_suffix_append_singleton_iff] at h
      exact absurd h.1 (by decide)
  by_cases hclose : ')' ∈ f.onHeadingLine rest
  · exact iff_of_false (not_countsFromBody_of_parenthesis hline hwhole hclose) fun h => h.1 hclose
  refine iff_of_true ?_ ⟨hclose, hmore⟩
  have hsplit : f.heading ++ f.onHeadingLine rest =
      (f.front ++ f.params) ++ ')' :: (' ' :: f.onHeadingLine rest) := by simp [hheading]
  have hcolumn : f.column rest = (f.front ++ f.params).length + 1 := by
    rw [column, hline, hsplit]
    exact bodyColumn_of_parenthesis (hsplit ▸ hwhole) (by simp [hclose])
  unfold CountsFromBody
  rw [hcolumn, hheading]
  constructor
  · simp only [List.length_append, List.length_cons, List.length_nil]
    omega
  · rw [List.drop_append, List.drop_of_length_le (by omega)]
    simp [IsBrace]

/-- Where the parameters stand on one line, the braces are counted from the body except if another
arrow or parenthesis comes before. -/
theorem countsFromBody_iff (hname : isCapitalized f.name = true) (hfeed : '\n' ∉ f.params)
    (hparams : ¬arrow <:+: f.params) :
    f.CountsFromBody rest ↔
      f.isArrow = true ∨ (')' ∉ f.onHeadingLine rest ∧ ¬arrow <:+: f.onHeadingLine rest) := by
  cases harrow : f.isArrow with
  | true => exact iff_of_true (countsFromBody_of_isArrow hname hfeed hparams harrow) (.inl rfl)
  | false =>
    rw [countsFromBody_iff_of_not_isArrow hname hfeed hparams harrow]
    simp

/-- A function that stands on a line, and goes on over as many lines as it may, is a component of
the file. Its last line is where the braces that are counted come to an end. -/
theorem exists_component (file : String) {lines : List String} {i : Nat}
    (hname : isCapitalized f.name = true)
    (hlines : lines.drop i = Text.lines (String.ofList (f.text rest)))
    (hconstant : f.isArrow = true → '\n' ∈ f.params → isConstant (String.ofList f.name)
      (trimmed (String.ofList (firstLine (f.text rest)))) = false) :
    ∃ component ∈ components file lines, component.name = String.ofList f.name ∧
      component.first = i + 1 ∧
      component.last = i + 1 + feedsBeforeClosing (f.text rest) (f.column rest) := by
  have hline := getElem?_of_drop hlines
  have hfunction : isConstant (String.ofList f.name)
      (trimmed (String.ofList (firstLine (f.text rest)))) = false := by
    cases harrow : f.isArrow with
    | true =>
      by_cases hfeed : '\n' ∈ f.params
      · exact hconstant harrow hfeed
      · exact isConstant_of_isArrow hname hfeed harrow _
    | false =>
      obtain ⟨tail, hfirst, -⟩ := firstLine_text hname rest
      have hkeyword : f.keyword = "function" := by simp [keyword, harrow]
      rw [hfirst, hkeyword]
      exact isConstant_function hname tail _
  obtain ⟨tail, hfirst, htail⟩ := firstLine_text hname rest
  have hdeclared : declared? (String.ofList (firstLine (f.text rest))) =
      some (String.ofList f.name, .functional) := by
    rw [hfirst] at hfunction ⊢
    exact declared?_keyword keyword_mem hname htail hfunction
  have hlast : componentEnd? lines i =
      some (i + feedsBeforeClosing (f.text rest) (f.column rest)) := by
    rw [componentEnd?, hline]
    dsimp only
    rw [String.toList_ofList]
    exact blockEnd?_lines hlines (bodyColumn_le _)
  refine ⟨component file lines i (String.ofList f.name) .functional, ?_, rfl, rfl, ?_⟩
  · refine List.mem_filterMap.mpr
      ⟨(String.ofList (firstLine (f.text rest)), i), List.mk_mem_zipIdx_iff_getElem?.mpr hline, ?_⟩
    dsimp only
    rw [hdeclared]
    rfl
  · unfold component
    rw [hlast, Option.getD_some]
    simp only
    omega

/-- The component of a function ends on the line of the brace that closes its body, if the braces
are counted from a place before the body and behind those of the parameters. Counted from anywhere
else, they come to an end at another brace, or at none. If the parameters stand on one line, this
happens exactly if there is no arrow before the body, and an arrow or a closing parenthesis in it on
that line. -/
theorem exists_component_last_iff (file : String) {lines : List String} {i : Nat}
    (hf : f.WellFormed) (hlines : lines.drop i = Text.lines (String.ofList (f.text rest)))
    (hconstant : f.isArrow = true → '\n' ∈ f.params → isConstant (String.ofList f.name)
      (trimmed (String.ofList (firstLine (f.text rest)))) = false) :
    ∃ component ∈ components file lines, component.name = String.ofList f.name ∧
      component.first = i + 1 ∧
      component.last = i + 1 + feedsBeforeClosing (f.text rest) (f.column rest) ∧
      (closingBrace? (f.text rest) (f.column rest) = some (f.heading.length + 1 + f.body.length) ↔
        f.CountsFromBody rest) ∧
      (f.CountsFromBody rest → component.last = i + 1 + (f.heading ++ f.body).count '\n') ∧
      ('\n' ∉ f.params → ¬arrow <:+: f.params →
        (f.CountsFromBody rest ↔ f.isArrow = true ∨
          (')' ∉ f.onHeadingLine rest ∧ ¬arrow <:+: f.onHeadingLine rest))) := by
  obtain ⟨component, hcomponent, hname, hfirst, hlast⟩ :=
    exists_component file hf.name hlines hconstant
  have hclosing : closingBrace? (f.text rest) (f.column rest) =
      some (f.heading.length + 1 + f.body.length) ↔ f.CountsFromBody rest :=
    closingBrace?_eq_iff hf.heading hf.body (f.column rest)
  refine ⟨component, hcomponent, hname, hfirst, hlast, hclosing, fun hcounts => ?_,
    countsFromBody_iff hf.name⟩
  exact hlast.trans (congrArg (i + 1 + ·) (feedsBeforeClosing_block (hclosing.mpr hcounts)))

/-- A component that takes its properties apart on one line, and has a block in its body. -/
def card : FunctionText :=
  ⟨true, "Card".toList, "\x7b title \x7d".toList,
    "\n  if (title) \x7b\n    return title;\n  \x7d\n".toList⟩

/-- The lines of a file with the component. -/
def cardLines : List String :=
  ["import x from 'x';", "const Card = (\x7b title \x7d) => \x7b", "  if (title) \x7b",
    "    return title;", "  \x7d", "\x7d", "export default Card;"]

/-- A component that takes its properties apart behind `const` ends where its body does. -/
theorem exists_component_last_iff_card : ∃ component ∈ components "Card.jsx" cardLines,
    component.name = "Card" ∧ component.first = 2 ∧ component.last = 6 := by
  obtain ⟨component, hcomponent, hname, hfirst, -, -, hlast, hcounts⟩ :=
    exists_component_last_iff "Card.jsx" (f := card) ⟨rfl, by decide, by decide⟩
      (show cardLines.drop 1 = Text.lines
        (String.ofList (card.text "\nexport default Card;".toList)) from rfl) (by decide)
  exact ⟨component, hcomponent, hname, hfirst,
    hlast ((hcounts (by decide) (by decide)).mpr (.inl rfl))⟩

/-- A component that takes its properties apart over several lines. -/
def spreadCard : FunctionText :=
  ⟨false, "Card".toList, "\x7b\n  title\n\x7d".toList, "\n  return title;\n".toList⟩

/-- The braces of its parameters are taken for those of its body. -/
theorem components_spreadCard : spreadCard.WellFormed ∧ ¬arrow <:+: spreadCard.params ∧
    Text.lines (String.ofList (spreadCard.text [])) =
      ["function Card(\x7b", "  title", "\x7d) \x7b", "  return title;", "\x7d"] ∧
    (components "Card.jsx" (Text.lines (String.ofList (spreadCard.text [])))).map
      (fun component => (component.name, component.first, component.last)) = [("Card", 1, 3)] ∧
    (spreadCard.heading ++ spreadCard.body).count '\n' = 4 := by
  refine ⟨⟨rfl, by decide, by decide⟩, by decide, rfl, rfl, rfl⟩

end FunctionText

end Restack.Outline.React
