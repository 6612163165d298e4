import Restack.Proofs.Outline.Closings
import Restack.Proofs.Outline.Declarations

/-!
# Classes below a decorator

A class is looked for from the line on which its decorator is taken to end, which is the first one
that closes a parenthesis and opens none. A decorator that is written on one line is not taken to
end there, so its class is found only if no later line closes a parenthesis and opens none. Where a
class is found, it ends on the line of the brace that closes its body.
-/

namespace Restack.Outline.Angular

open Restack.Text

/-- An exported class, as it is written: its name, what stands between the name and the body, and
what stands between the braces of its body. -/
structure ClassText where
  name : List Char
  heritage : List Char
  body : List Char

namespace ClassText

variable (c : ClassText) (rest : List Char)

/-- All that stands before the body. -/
def heading : List Char := classStart ++ (c.name ++ c.heritage)

/-- The class, and what stands behind it. -/
def text : List Char := c.heading ++ '\x7b' :: (c.body ++ '\x7d' :: rest)

/-- The name ends before what follows it, the body is opened on the same line, and its braces are
balanced. -/
structure WellFormed : Prop where
  name : isCapitalized c.name = true
  apart : c.heritage.head?.any isNameChar = false
  line : ∀ d ∈ c.heritage, ¬IsBrace d ∧ d ≠ '\n'
  body : IsBalanced c.body

variable {c rest}

/-- The heading of a class has neither braces nor line ends in it. -/
theorem WellFormed.not_mem_heading (hc : c.WellFormed) :
    ∀ d ∈ c.heading, ¬IsBrace d ∧ d ≠ '\n' := by
  intro d hd
  rcases List.mem_append.mp hd with hd | hd
  · have hstart : classStart.all (fun d => decide (¬IsBrace d ∧ d ≠ '\n')) = true := rfl
    exact of_decide_eq_true (List.all_eq_true.mp hstart d hd)
  · rcases List.mem_append.mp hd with hd | hd
    · refine ⟨fun hbrace => ?_, fun hfeed => ?_⟩
      · rcases hbrace with rfl | rfl <;> exact not_mem_of_isCapitalized hc.name rfl hd
      · exact not_mem_of_isCapitalized hc.name rfl (hfeed ▸ hd)
    · exact hc.line d hd

/-- The line that declares the class. -/
theorem WellFormed.firstLine_text (hc : c.WellFormed) (rest : List Char) : ∃ tail,
    firstLine (c.text rest) = classStart ++ (c.name ++ tail) ∧
      tail.head?.any isNameChar = false := by
  have hfeed : '\n' ∉ c.heading := fun hmem => (hc.not_mem_heading _ hmem).2 rfl
  refine ⟨c.heritage ++ firstLine ('\x7b' :: (c.body ++ '\x7d' :: rest)), ?_, ?_⟩
  · rw [text, firstLine_append hfeed, heading]
    simp
  · cases hheritage : c.heritage with
    | nil => rfl
    | cons d others =>
      have hapart := hc.apart
      rw [hheritage] at hapart
      exact hapart

end ClassText

/-- The decorator on line `i` is taken to end before the class behind line `d`, and no line between
them names a class. -/
def FindsClass (lines : List String) (i d : Nat) : Prop :=
  decoratorEnd lines i ≤ d + 1 ∧
    ∀ line ∈ slice lines (decoratorEnd lines i) (d + 1), hasPart "class" line = false

instance (lines : List String) (i d : Nat) : Decidable (FindsClass lines i d) :=
  inferInstanceAs (Decidable (_ ∧ _))

section Class

variable {lines : List String} {i d : Nat} {c : ClassText} {rest : List Char}

/-- The line that a class is declared on names it. -/
theorem hasPart_class (hc : c.WellFormed) :
    hasPart "class" (String.ofList (firstLine (c.text rest))) = true := by
  obtain ⟨tail, hfirst, -⟩ := hc.firstLine_text rest
  rw [hfirst, hasPart, occurs_iff_infix]
  simp only [String.toList_ofList]
  have hclass : ['c', 'l', 'a', 's', 's'] <:+: classStart := by decide
  exact hclass.trans (List.prefix_append classStart _).isInfix

/-- The class behind line `d` is what is looked at, exactly if it is found. -/
theorem firstLine?_class_iff (hc : c.WellFormed)
    (hlines : lines.drop (d + 1) = Text.lines (String.ofList (c.text rest))) :
    firstLine? (hasPart "class") lines (decoratorEnd lines i) = some (d + 1) ↔
      FindsClass lines i d := by
  rw [firstLine?_eq_some_iff]
  constructor
  · rintro ⟨hend, -, hbefore⟩
    refine ⟨hend, fun line hline => ?_⟩
    obtain ⟨j, hj, hjd, hline⟩ := mem_slice_iff.mp hline
    exact hbefore j line hj hjd hline
  · rintro ⟨hend, hbefore⟩
    refine ⟨hend, ⟨_, getElem?_of_drop hlines, hasPart_class hc⟩, fun j line hj hjd hline => ?_⟩
    exact hbefore line (mem_slice_iff.mpr ⟨j, hj, hjd, hline⟩)

/-- A class ends on the line of the brace that closes its body. -/
theorem blockEnd_classText (hc : c.WellFormed) {start : Nat}
    (hlines : lines.drop start = Text.lines (String.ofList (c.text rest))) :
    blockEnd lines start = start + c.body.count '\n' := by
  have hheading : IsBalanced c.heading :=
    IsBalanced.of_forall fun d hd => (hc.not_mem_heading d hd).1
  have hclosing : closingBrace? (c.text rest) 0 = some (c.heading.length + 1 + c.body.length) :=
    (closingBrace?_eq_iff hheading hc.body 0).mpr
      ⟨Nat.zero_le _, fun d hd => (hc.not_mem_heading d hd).1⟩
  have hfeed : c.heading.count '\n' = 0 :=
    List.count_eq_zero.mpr fun hmem => (hc.not_mem_heading _ hmem).2 rfl
  rw [blockEnd, blockEnd?_lines hlines (Nat.zero_le _), Option.getD_some]
  change start + feedsBeforeClosing (c.heading ++ '\x7b' :: (c.body ++ '\x7d' :: rest)) 0 = _
  rw [feedsBeforeClosing_block hclosing, List.count_append, hfeed, Nat.zero_add]

/-- The component whose decorator begins on line `i` is the class behind line `d`, if that is
found. -/
theorem exists_component? (hc : c.WellFormed)
    (hlines : lines.drop (d + 1) = Text.lines (String.ofList (c.text rest)))
    (hfinds : FindsClass lines i d) (file : String) :
    ∃ component, component? file lines i = some component ∧
      component.name = String.ofList c.name ∧ component.first = i + 1 ∧
      component.last = d + 2 + c.body.count '\n' := by
  have hclass := (firstLine?_class_iff hc hlines).mpr hfinds
  have hline := getElem?_of_drop hlines
  obtain ⟨tail, hfirst, htail⟩ := hc.firstLine_text rest
  obtain ⟨m, hmatch, hname⟩ := group_classPattern hc.name htail
  rw [hfirst] at hline
  unfold component?
  dsimp only
  rw [hclass, Option.bind_eq_bind, Option.bind_some, hline, Option.bind_eq_bind, Option.bind_some,
    hmatch, Option.bind_eq_bind, Option.bind_some]
  refine ⟨_, rfl, hname, rfl, ?_⟩
  dsimp only
  rw [blockEnd_classText hc hlines]
  omega

/-- A class behind a decorator is reported if it is found: if the decorator is taken to end before
it, and no line between names a class. Otherwise another line is taken for the class, or none. -/
theorem exists_component_of_classText (hc : c.WellFormed) {line : String}
    (hline : lines[i]? = some line) (hdecorator : hasPart "@Component" line = true)
    (hlines : lines.drop (d + 1) = Text.lines (String.ofList (c.text rest))) (file : String) :
    (firstLine? (hasPart "class") lines (decoratorEnd lines i) = some (d + 1) ↔
      FindsClass lines i d) ∧
    (FindsClass lines i d → ∃ component ∈ components file lines,
      component.name = String.ofList c.name ∧ component.first = i + 1 ∧
        component.last = d + 2 + c.body.count '\n') := by
  refine ⟨firstLine?_class_iff hc hlines, fun hfinds => ?_⟩
  obtain ⟨component, hcomponent, hreported⟩ := exists_component? hc hlines hfinds file
  refine ⟨component, List.mem_filterMap.mpr
    ⟨(line, i), List.mk_mem_zipIdx_iff_getElem?.mpr hline, ?_⟩, hreported⟩
  dsimp only
  rw [if_pos hdecorator, hcomponent]

end Class

/-- A class whose body closes a parenthesis on a line of its own. -/
def cart : ClassText :=
  ⟨"CartComponent".toList, [' '],
    "\n  run() \x7b\n    load(\n      1\n    );\n  \x7d\n".toList⟩

/-- The class has a capitalized name and a balanced body. -/
theorem cart_wellFormed : cart.WellFormed where
  name := rfl
  apart := rfl
  line := List.forall_mem_singleton.mpr (by decide)
  body := by decide

/-- The class behind a decorator on several lines. -/
def cartLines : List String :=
  ["@Component(\x7b", "  selector: 'app-cart'", "\x7d)", "export class CartComponent \x7b",
    "  run() \x7b", "    load(", "      1", "    );", "  \x7d", "\x7d"]

/-- Behind a decorator on several lines the class is found. -/
theorem exists_component_of_classText_cart : ∃ component ∈ components "cart.component.ts" cartLines,
    component.name = "CartComponent" ∧ component.first = 1 ∧ component.last = 10 :=
  (exists_component_of_classText (c := cart) (i := 0) (d := 2) cart_wellFormed
    (show cartLines[0]? = some "@Component(\x7b" from rfl) (by decide)
    (show cartLines.drop 3 = Text.lines (String.ofList (cart.text [])) from rfl)
    "cart.component.ts").2 ⟨by decide, by decide⟩

/-- The same class behind a decorator on one line. -/
def shortCartLines : List String :=
  "@Component(\x7b selector: 'app-cart' \x7d)" :: cartLines.drop 3

/-- The decorator is taken to end in the body, so the class is not reported. -/
theorem components_shortCartLines : cart.WellFormed ∧
    shortCartLines.drop 1 = Text.lines (String.ofList (cart.text [])) ∧
    decoratorEnd shortCartLines 0 = 5 ∧ components "cart.component.ts" shortCartLines = [] := by
  exact ⟨cart_wellFormed, rfl, rfl, rfl⟩

end Restack.Outline.Angular
