import Mathlib.Data.List.Forall2
import Restack.Target.Flutter

/-!
# Reading generated code

A reader of code that knows text literals and brackets, and nothing else: an apostrophe begins a
literal, a backslash in it takes the next character as it is, and the first other apostrophe ends
it. Outside of literals, round and square brackets are matched. `Reads` says what a piece of code
does to such a reader wherever it stands in the code, so that it can be shown piece by piece.
-/

namespace Restack.Target

/-- What a reader of code is in the middle of. -/
inductive Scan.Mode where
  | code
  /-- A literal, with what has been read of its text. -/
  | literal (read : List Char)
  /-- A literal, after a backslash. -/
  | escaped (read : List Char)
deriving DecidableEq, Repr

/-- How far a reader of code has come. -/
structure Scan where
  /-- The brackets that are open, the innermost first. -/
  opened : List Char
  /-- The texts of the literals so far. -/
  texts : List String
  mode : Scan.Mode
deriving DecidableEq, Repr

namespace Scan

/-- The bracket that a bracket closes. -/
def opening? : Char → Option Char
  | ')' => some '('
  | ']' => some '['
  | _ => none

/-- Reads one character. A bracket that closes none of its kind cannot be read. -/
def step (scan : Scan) (c : Char) : Option Scan :=
  match scan.mode with
  | .code =>
    if c = '\x27' then some { scan with mode := .literal [] }
    else if c = '(' ∨ c = '[' then some { scan with opened := c :: scan.opened }
    else
      match opening? c with
      | none => some scan
      | some bracket =>
        if scan.opened.head? = some bracket then some { scan with opened := scan.opened.tail }
        else none
  | .literal read =>
    if c = '\\' then some { scan with mode := .escaped read }
    else if c = '\x27' then
      some { scan with texts := scan.texts ++ [String.ofList read], mode := .code }
    else some { scan with mode := .literal (read ++ [c]) }
  | .escaped read => some { scan with mode := .literal (read ++ [c]) }

/-- Reads code to its end. -/
def run (code : String) (scan : Scan) : Option Scan :=
  code.toList.foldlM step scan

/-- The texts of the literals in some code, if every bracket and every literal in it is closed. -/
def textsIn? (code : String) : Option (List String) :=
  (run code ⟨[], [], .code⟩).bind fun scan =>
    if scan.opened = [] ∧ scan.mode = .code then some scan.texts else none

end Scan

/-- Wherever a reader meets this code outside of literals, it reads these texts in it, and finds
all brackets and all literals in it closed. -/
def Reads (code : String) (texts : List String) : Prop :=
  ∀ opened before, Scan.run code ⟨opened, before, .code⟩ = some ⟨opened, before ++ texts, .code⟩

/-- Whether code has neither apostrophes nor brackets. -/
def isPlain (code : String) : Bool :=
  code.toList.all fun c => !(['\x27', '(', ')', '[', ']'].contains c)

namespace Reads

variable {code first second : String} {texts others : List String}

/-- What is read from two pieces of code is what is read from one and the other. -/
theorem append (hfirst : Reads first texts) (hsecond : Reads second others) :
    Reads (first ++ second) (texts ++ others) := by
  intro opened before
  have hrun := hfirst opened before
  unfold Scan.run at *
  rw [String.toList_append, List.foldlM_append, hrun]
  have hrest := hsecond opened (before ++ texts)
  rw [List.append_assoc] at hrest
  exact hrest

/-- Code without apostrophes and brackets has no texts. -/
theorem of_plain (h : isPlain code = true) : Reads code [] := by
  intro opened before
  unfold Scan.run
  unfold isPlain at h
  rw [List.append_nil]
  revert h
  induction code.toList with
  | nil => exact fun _ => rfl
  | cons c rest ih =>
    intro h
    rw [List.all_cons, Bool.and_eq_true] at h
    obtain ⟨hc, hrest⟩ := h
    simp only [List.contains_eq_mem, List.mem_cons, List.not_mem_nil, or_false,
      Bool.not_eq_true', decide_eq_false_iff_not, not_or] at hc
    have hclosing : Scan.opening? c = none := by
      unfold Scan.opening?
      split
      · exact absurd rfl hc.2.2.1
      · exact absurd rfl hc.2.2.2.2
      · rfl
    have hstep : Scan.step ⟨opened, before, .code⟩ c = some ⟨opened, before, .code⟩ := by
      simp only [Scan.step, hc, hclosing, if_false, or_self]
    rw [List.foldlM_cons, hstep]
    exact ih hrest

/-- Code between two brackets of one kind. -/
theorem enclosed {left right : Char} {before after : String} (hleft : left = '(' ∨ left = '[')
    (hright : Scan.opening? right = some left) (hbefore : before.toList = [left])
    (hafter : after.toList = [right]) (h : Reads code texts) :
    Reads (before ++ code ++ after) texts := by
  intro opened read
  have hopen : Scan.step ⟨opened, read, .code⟩ left = some ⟨left :: opened, read, .code⟩ := by
    rcases hleft with rfl | rfl <;> rfl
  have hclose : Scan.step ⟨left :: opened, read ++ texts, .code⟩ right =
      some ⟨opened, read ++ texts, .code⟩ := by
    unfold Scan.opening? at hright
    split at hright
    · cases hright
      rfl
    · cases hright
      rfl
    · cases hright
  have hinner := h (left :: opened) read
  unfold Scan.run at *
  simp only [String.toList_append, hbefore, hafter, List.foldlM_append, List.foldlM_cons,
    List.foldlM_nil, hopen, hclose, hinner, Option.bind_eq_bind, Option.bind_some, Option.pure_def]

/-- Parentheses around code do not matter to the texts in it. -/
theorem parenthesized (h : Reads code texts) : Reads ("(" ++ code ++ ")") texts :=
  h.enclosed (.inl rfl) rfl rfl rfl

/-- Brackets around code do not matter to the texts in it. -/
theorem bracketed (h : Reads code texts) : Reads ("[" ++ code ++ "]") texts :=
  h.enclosed (.inr rfl) rfl rfl rfl

/-- Pieces of code with code between them that has no texts. -/
theorem joined {separator : String} (hseparator : Reads separator []) {pieces : List String}
    {texts : List (List String)} (h : List.Forall₂ Reads pieces texts) :
    Reads (Text.joined separator pieces) texts.flatten := by
  have hempty : Reads "" [] := of_plain rfl
  unfold Text.joined
  induction h with
  | nil => exact hempty
  | @cons piece found rest others hpiece hrest ih =>
    cases hrest with
    | nil =>
      rw [List.map_singleton, Text.joinWith, String.ofList_toList, List.flatten_singleton]
      exact hpiece
    | @cons next _ _ _ _ _ =>
      rw [List.map_cons, List.map_cons, Text.joinWith, ← List.map_cons, String.ofList_append,
        String.ofList_append, String.ofList_toList, String.ofList_toList, List.flatten_cons]
      · simpa using (hpiece.append hseparator).append ih
      · simp

end Reads

end Restack.Target
