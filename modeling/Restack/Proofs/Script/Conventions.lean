import Restack.Proofs.Script.Summaries
import Restack.Proofs.Text.Trimming

/-!
# What parsers are relied on for

Which trees scripts have is left to a parser. What is relied on beyond that is how the tokens of the
language are spelled: a number begins with a digit or with the point before its fraction and is made
of letters, digits and a few signs, a truth value is its word, and no line ends within the name of a
function.
-/

namespace Restack.Script

open Text (isAsciiDigit isAsciiLetter)

namespace Lexeme

/-- Characters that a number may be made of. -/
def isNumberChar (c : Char) : Bool :=
  isAsciiDigit c || isAsciiLetter c || ['_', '.', '+', '-'].contains c

/-- Characters that a number may begin with. -/
def isNumberStart (c : Char) : Bool :=
  isAsciiDigit c || c == '.'

/-- Whether a text may be a number, by its characters. -/
def isNumeral (text : List Char) : Bool :=
  text.head?.any isNumberStart && text.all isNumberChar

/-- The characters of a number are no blanks. -/
theorem isBlank_of_isNumberChar {c : Char} (h : isNumberChar c = true) :
    Text.isBlank c = false := by
  simp only [isNumberChar, Bool.or_eq_true] at h
  rcases h with (hdigit | hletter) | hsign
  · exact Text.isBlank_of_isAsciiDigit hdigit
  · exact Text.isBlank_of_isAsciiLetter hletter
  · have hsigns : ∀ c ∈ ['_', '.', '+', '-'], (!Text.isBlank c) = true := List.all_eq_true.mp rfl
    simpa using hsigns c (List.contains_iff_mem.mp hsign)

section Numerals

variable {text : List Char}

/-- A number is a first character and more of them. -/
theorem exists_cons_of_isNumeral (h : isNumeral text = true) :
    ∃ c rest, text = c :: rest ∧ isNumberStart c = true := by
  cases text with
  | nil => cases h
  | cons c rest => exact ⟨c, rest, rfl, (Bool.and_eq_true_iff.mp h).1⟩

/-- A number is made of the characters of numbers. -/
theorem isNumberChar_of_isNumeral (h : isNumeral text = true) :
    ∀ c ∈ text, isNumberChar c = true :=
  List.all_eq_true.mp (Bool.and_eq_true_iff.mp h).2

/-- There are no blanks around a number. -/
theorem isTrimmed_of_isNumeral (h : isNumeral text = true) : Text.IsTrimmed text :=
  .of_forall fun c hc => isBlank_of_isNumberChar (isNumberChar_of_isNumeral h c hc)

end Numerals

end Lexeme

/-- The kind of the node that stands for a truth value, and nothing else. -/
def Kind.ofTruth (b : Bool) : Kind :=
  if b then .trueWord else .falseWord

/-- The word for a truth value. -/
def wordOfTruth (b : Bool) : String :=
  if b then "true" else "false"

namespace Tree

/-- The numbers of a tree are spelled as such. -/
def SpellsNumbers (tree : Tree) : Prop :=
  ∀ node, tree.Holds node → node.kind? = some .number → Lexeme.isNumeral node.text.toList = true

/-- The truth values of a tree are spelled as their words. -/
def SpellsTruths (tree : Tree) : Prop :=
  ∀ node, tree.Holds node → ∀ b, node.kind? = some (Kind.ofTruth b) → node.text = wordOfTruth b

/-- No line ends within the names of the functions that a tree declares. -/
def NamesFunctions (ends : Char → Bool) (tree : Tree) : Prop :=
  ∀ node, tree.Holds node → node.kind?.any Kind.declaresFunction = true →
    ∀ name ∈ node.part? .name, ∀ c ∈ name.text.toList, ends c = false

/-- What holds of all that a walk through a tree comes to holds of all nodes in it, and the other
way round. -/
theorem forall_mem_walk_iff {tree : Tree} {p : Tree → Prop} :
    (∀ entry ∈ tree.walk, p entry.1) ↔ ∀ node, tree.Holds node → p node := by
  constructor
  · intro h node hnode
    obtain ⟨parent, hentry⟩ := hnode.mem_walkUnder none
    exact h (node, parent) hentry
  · intro h entry hentry
    exact h entry.1 (holds_of_mem_walkUnder hentry)

instance (tree : Tree) : Decidable tree.SpellsNumbers :=
  decidable_of_iff _ (forall_mem_walk_iff (p := fun node =>
    node.kind? = some .number → Lexeme.isNumeral node.text.toList = true))

instance (tree : Tree) : Decidable tree.SpellsTruths :=
  decidable_of_iff (∀ entry ∈ tree.walk,
      (entry.1.kind? = some (Kind.ofTruth false) → entry.1.text = wordOfTruth false) ∧
        (entry.1.kind? = some (Kind.ofTruth true) → entry.1.text = wordOfTruth true)) <| by
    rw [SpellsTruths, ← forall_mem_walk_iff]
    simp only [Bool.forall_bool]

instance (ends : Char → Bool) (tree : Tree) : Decidable (tree.NamesFunctions ends) :=
  decidable_of_iff (∀ entry ∈ tree.walk, entry.1.kind?.any Kind.declaresFunction = true →
      (entry.1.part? .name).all fun name => name.text.toList.all fun c => !ends c) <| by
    rw [NamesFunctions, ← forall_mem_walk_iff]
    simp [Option.all_eq_true]

end Tree

namespace Parser

/-- Every tree that a parser gives has a property. -/
def Ensures (parser : Parser) (property : Tree → Prop) : Prop :=
  ∀ dialect code tree, parser dialect code = .ok tree → property tree

/-- The parser that knows one script only. -/
def only (code : String) (tree : Tree) : Parser := fun _ text =>
  if text = code then .ok tree else .error (.node 1 true [])

/-- The report on the one script is the summary of its tree. -/
theorem report_only (code : String) (tree : Tree) (path : String) :
    report (only code tree) path code = (Summary.ofTree tree).toValue := by
  rw [report, Summary.ofScript, only, if_pos rfl]
  rfl

/-- What holds of the tree of the one script holds of all trees that the parser gives. -/
theorem ensures_only {code : String} {tree : Tree} {property : Tree → Prop} (h : property tree) :
    (only code tree).Ensures property := by
  intro dialect text found hfound
  unfold only at hfound
  split at hfound
  · cases hfound
    exact h
  · cases hfound

end Parser

namespace Summary

/-- No line ends within the names of the functions of a script. -/
theorem ends_of_mem_routines {ends : Char → Bool} {tree : Tree} (htree : tree.NamesFunctions ends)
    {routine : Routine} (h : routine ∈ (ofTree tree).routines) :
    ∀ c ∈ routine.name.toList, ends c = false := by
  obtain ⟨node, parent, hnode, hkind, hroutine⟩ := exists_of_mem_routines h
  obtain ⟨name, hname, rfl⟩ := Option.map_eq_some_iff.mp hroutine
  exact htree node hnode hkind name hname

end Summary

end Restack.Script
