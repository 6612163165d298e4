import Restack.Proofs.Script.Summaries
import Restack.Proofs.Value.Entries

/-!
# State that components declare

A call of `useState` that is bound to a pair of names declares state under the first of them. The
summary of a script keeps one variable for each name that the function of a component declares so,
with the text of the first argument of the last call for it.
-/

namespace Restack.Script

namespace Tree

/-- What a call is given first. -/
def firstArgument? (call : Tree) : Option Tree :=
  (call.part? .arguments).bind (·.nodes.head?)

/-- What a call is given first stands within it. -/
theorem holds_of_firstArgument? {call value : Tree} (h : call.firstArgument? = some value) :
    call.Holds value := by
  obtain ⟨arguments, harguments, hvalue⟩ := Option.bind_eq_some_iff.mp h
  exact (Holds.of_part? harguments).trans (.of_mem_nodes (List.mem_of_head? hvalue))

/-- A call below a parent declares state under a name: it calls `useState`, and it is bound to a
pattern that begins with the name and another one. -/
inductive DeclaresState (call : Tree) : Option Tree → String → Prop
  | bound {function declarator pattern first second : Tree} {others : List Tree}
    (hcall : call.kind? = some .callExpression)
    (hfunction : call.part? .function = some function)
    (hcalled : function.kind? = some .identifier) (hname : function.text = "useState")
    (hdeclarator : declarator.kind? = some .variableDeclarator)
    (hpattern : declarator.part? .name = some pattern)
    (harray : pattern.kind? = some .arrayPattern)
    (hnodes : pattern.nodes = first :: second :: others)
    (hfirst : first.kind? = some .identifier) (hsecond : second.kind? = some .identifier) :
    DeclaresState call (some declarator) first.text

/-- Of the calls in a function, this is the last one that declares state under a name. -/
structure IsLastToDeclare (function call : Tree) (parent : Option Tree) (name : String) : Prop where
  declares : call.DeclaresState parent name
  last : ∃ before after, function.walk = before ++ (call, parent) :: after ∧
    ∀ entry ∈ after, ¬entry.1.DeclaresState entry.2 name

/-- A call that declares state stands within the function. -/
theorem IsLastToDeclare.holds {function call : Tree} {parent : Option Tree} {name : String}
    (h : function.IsLastToDeclare call parent name) : function.Holds call := by
  obtain ⟨before, after, hwalk, -⟩ := h.last
  have hentry : (call, parent) ∈ function.walk := by
    rw [hwalk]
    exact List.mem_append_right _ List.mem_cons_self
  exact holds_of_mem_walkUnder hentry

end Tree

namespace Component

open Script.Tree

/-- A call is of a function if the function is called by its name alone. -/
theorem callee_eq_iff {call : Tree} {name : String} (hname : name ≠ "") :
    call.callee = name ↔ ∃ function, call.part? .function = some function ∧
      function.kind? = some .identifier ∧ function.text = name := by
  unfold callee isKind
  cases call.part? .function with
  | none => simpa using hname.symm
  | some function =>
    by_cases hkind : function.kind? = some .identifier
    · simp [hkind]
    · simp [hkind, hname.symm]

/-- The summary keeps of a call what it declares, with the text of its first argument. -/
theorem stateEntry?_eq_some_iff {call : Tree} {parent : Option Tree} {name text : String} :
    stateEntry? call parent = some (name, text) ↔
      call.DeclaresState parent name ∧ text = literalText call.firstArgument? := by
  unfold stateEntry?
  simp only [Option.bind_eq_bind, Option.bind_eq_some_iff, Option.guard_eq_some',
    isKind, beq_iff_eq, Option.pure_def, Option.some.injEq, exists_const, Bool.and_eq_true,
    Prod.mk.injEq, callee_eq_iff (show "useState" ≠ "" by decide)]
  constructor
  · rintro ⟨⟨hcall, function, hfunction, hcalled, hname⟩, declarator, rfl, hdeclarator, pattern,
      hpattern, harray, first, hfirst, second, hsecond, ⟨hfirstKind, hsecondKind⟩, rfl, rfl⟩
    obtain ⟨others, hnodes⟩ : ∃ others, pattern.nodes = first :: second :: others := by
      cases hlist : pattern.nodes with
      | nil => simp [hlist] at hfirst
      | cons one rest =>
        cases rest with
        | nil => simp [hlist] at hsecond
        | cons two others =>
          simp only [hlist, List.getElem?_cons_zero, List.getElem?_cons_succ,
            Option.some.injEq] at hfirst hsecond
          exact ⟨others, by rw [hfirst, hsecond]⟩
    exact ⟨.bound hcall hfunction hcalled hname hdeclarator hpattern harray hnodes hfirstKind
      hsecondKind, rfl⟩
  · rintro ⟨hdeclares, rfl⟩
    cases hdeclares with
    | @bound function declarator pattern first second others hcall hfunction hcalled hname
        hdeclarator hpattern harray hnodes hfirst hsecond =>
      exact ⟨⟨hcall, function, hfunction, hcalled, hname⟩, declarator, rfl, hdeclarator, pattern,
        hpattern, harray, first, by rw [hnodes]; rfl, second, by rw [hnodes]; rfl,
        ⟨hfirst, hsecond⟩, rfl, rfl⟩

/-- A component keeps a name with a text exactly if the last call that declares state under the name
has an argument with this text. -/
theorem mem_stateOf_iff {function : Tree} {name text : String} :
    (name, text) ∈ stateOf function ↔ ∃ call parent,
      function.IsLastToDeclare call parent name ∧ text = literalText call.firstArgument? := by
  rw [stateOf, Value.mem_ofEntries_filterMap_iff]
  constructor
  · rintro ⟨before, ⟨call, parent⟩, after, hwalk, hentry, hafter⟩
    obtain ⟨hdeclares, htext⟩ := stateEntry?_eq_some_iff.mp hentry
    refine ⟨call, parent, ⟨hdeclares, before, after, hwalk, fun other hother hagain => ?_⟩, htext⟩
    have hset := stateEntry?_eq_some_iff.mpr ⟨hagain, rfl⟩
    exact hafter other hother _ hset rfl
  · rintro ⟨call, parent, ⟨hdeclares, before, after, hwalk, hafter⟩, htext⟩
    refine ⟨before, (call, parent), after, hwalk, stateEntry?_eq_some_iff.mpr ⟨hdeclares, htext⟩,
      ?_⟩
    rintro other hother ⟨again, _⟩ hfound rfl
    have hset := stateEntry?_eq_some_iff.mp hfound
    exact hafter other hother hset.1

/-- Under each name under which state is declared there is a last call that does so. -/
theorem exists_isLastToDeclare {function call : Tree} {parent : Option Tree} {name : String}
    (hcall : (call, parent) ∈ function.walk) (h : call.DeclaresState parent name) :
    ∃ last above, function.IsLastToDeclare last above name := by
  have hset : (name, literalText call.firstArgument?) ∈
      function.walk.filterMap fun entry => stateEntry? entry.1 entry.2 :=
    List.mem_filterMap.mpr ⟨(call, parent), hcall, stateEntry?_eq_some_iff.mpr ⟨h, rfl⟩⟩
  obtain ⟨text, hkept⟩ := Value.exists_mem_ofEntries hset
  obtain ⟨last, above, hlast, -⟩ := mem_stateOf_iff.mp hkept
  exact ⟨last, above, hlast⟩

end Component

end Restack.Script
