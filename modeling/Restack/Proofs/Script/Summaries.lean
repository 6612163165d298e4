import Mathlib.Data.Option.Basic
import Restack.Proofs.Script.Walk
import Restack.Script.Summary

/-!
# What a summary lists

The summary of a script is made in one walk through its tree, in which each node adds what it
declares. So the functions and the components of a script are those that its nodes declare.
-/

namespace Restack.Script

/-- The kinds of functions that are declared by name. -/
def Kind.declaresFunction (kind : Kind) : Bool :=
  kind == .functionDeclaration || kind == .generatorFunctionDeclaration

/-- A function is bound to the name of a component. -/
structure Tree.DeclaresComponent (declarator : Tree) (name : String) (function : Tree) :
    Prop where
  isDeclarator : declarator.kind? = some .variableDeclarator
  named : ∃ bound, declarator.part? .name = some bound ∧ bound.kind? = some .identifier ∧
    bound.text = name
  atValue : declarator.part? .value = some function
  isArrow : function.kind? = some .arrowFunction
  capital : Text.isUpper (name.toList.take 1) = true

namespace Component

/-- The component that is made of a function under a name. -/
def ofFunction (name : String) (function : Tree) : Component :=
  { name := name
    props := propsOf function
    state := stateOf function
    hooks := hooksOf function
    markup := markupOf function }

/-- A declarator gives a component exactly if it binds a function to the name of one. -/
theorem ofTree?_eq_some_iff {declarator : Tree} {component : Component}
    (hkind : declarator.kind? = some .variableDeclarator) :
    ofTree? declarator = some component ↔ ∃ name function,
      declarator.DeclaresComponent name function ∧ component = ofFunction name function := by
  simp only [ofTree?, Option.bind_eq_bind, Option.bind_eq_some_iff, Option.guard_eq_some',
    Tree.isKind, beq_iff_eq, Option.pure_def, Option.some.injEq, exists_const]
  constructor
  · rintro ⟨bound, hbound, hname, function, hvalue, harrow, hcapital, rfl⟩
    exact ⟨bound.text, function,
      { isDeclarator := hkind, named := ⟨bound, hbound, hname, rfl⟩, atValue := hvalue,
        isArrow := harrow, capital := hcapital }, rfl⟩
  · rintro ⟨_, function, ⟨-, ⟨bound, hbound, hname, rfl⟩, hvalue, harrow, hcapital⟩, rfl⟩
    exact ⟨bound, hbound, hname, function, hvalue, harrow, hcapital, rfl⟩

end Component

namespace Summary

/-- Only the declaration of a function adds one. -/
theorem routines_addNode (summary : Summary) (tree : Tree) (parent : Option Tree) :
    (summary.addNode tree parent).routines = summary.routines ++
      if tree.kind?.any Kind.declaresFunction then (Routine.ofTree? tree parent).toList
      else [] := by
  by_cases hkind : tree.kind?.any Kind.declaresFunction = true
  · rw [if_pos hkind]
    cases hsome : tree.kind? with
    | none =>
      rw [hsome] at hkind
      cases hkind
    | some kind =>
      rw [hsome, Option.any_some, Kind.declaresFunction, Bool.or_eq_true, beq_iff_eq,
        beq_iff_eq] at hkind
      rcases hkind with rfl | rfl <;> simp [addNode, hsome]
  · rw [if_neg hkind, List.append_nil, addNode]
    split
    case h_3 h => exact absurd (by rw [h]; rfl) hkind
    case h_4 h => exact absurd (by rw [h]; rfl) hkind
    all_goals rfl

/-- The functions of a script are declared in it. -/
theorem exists_of_mem_routines {tree : Tree} {routine : Routine}
    (h : routine ∈ (ofTree tree).routines) : ∃ node parent, tree.Holds node ∧
      node.kind?.any Kind.declaresFunction = true ∧
      Routine.ofTree? node parent = some routine := by
  suffices hfold : ∀ (entries : List (Tree × Option Tree)) (summary : Summary),
      routine ∈ (entries.foldl (fun summary entry => summary.addNode entry.1 entry.2)
        summary).routines →
      routine ∈ summary.routines ∨ ∃ entry ∈ entries,
        entry.1.kind?.any Kind.declaresFunction = true ∧
          Routine.ofTree? entry.1 entry.2 = some routine by
    obtain ⟨entry, hentry, hkind, hroutine⟩ := (hfold tree.walk _ h).resolve_left List.not_mem_nil
    exact ⟨entry.1, entry.2, Tree.holds_of_mem_walkUnder hentry, hkind, hroutine⟩
  intro entries
  induction entries with
  | nil => exact fun summary h => .inl h
  | cons entry rest ih =>
    intro summary h
    rcases ih _ h with hnode | ⟨other, hother, hrest⟩
    · rw [routines_addNode] at hnode
      rcases List.mem_append.mp hnode with hnode | hnode
      · exact .inl hnode
      · split at hnode
        · rename_i hkind
          exact .inr ⟨entry, List.mem_cons_self, hkind, Option.mem_toList.mp hnode⟩
        · cases hnode
    · exact .inr ⟨other, List.mem_cons_of_mem _ hother, hrest⟩

/-- Only the declaration of a name adds a component. -/
theorem components_addNode (summary : Summary) (tree : Tree) (parent : Option Tree) :
    (summary.addNode tree parent).components = summary.components ++
      if tree.isKind .variableDeclarator then (Component.ofTree? tree).toList else [] := by
  by_cases hkind : tree.kind? = some .variableDeclarator
  · simp [addNode, Tree.isKind, hkind]
  · rw [if_neg (by simpa [Tree.isKind] using hkind), List.append_nil, addNode]
    split
    case h_5 h => exact absurd h hkind
    all_goals rfl

/-- The components of a summary are those of its declarations in order. -/
theorem components_ofTree (tree : Tree) :
    (ofTree tree).components = tree.walk.flatMap fun entry =>
      if entry.1.isKind .variableDeclarator then (Component.ofTree? entry.1).toList else [] := by
  suffices h : ∀ (entries : List (Tree × Option Tree)) (summary : Summary),
      (entries.foldl (fun summary entry => summary.addNode entry.1 entry.2) summary).components =
        summary.components ++ entries.flatMap fun entry =>
          if entry.1.isKind .variableDeclarator then (Component.ofTree? entry.1).toList else [] by
    exact h tree.walk _
  intro entries
  induction entries with
  | nil => exact fun summary => (List.append_nil _).symm
  | cons entry rest ih =>
    intro summary
    rw [List.foldl_cons, ih, components_addNode, List.flatMap_cons, List.append_assoc]

/-- The components of a script are those that its declarators bind functions to. -/
theorem mem_components_iff {tree : Tree} {component : Component} :
    component ∈ (ofTree tree).components ↔ ∃ declarator name function, tree.Holds declarator ∧
      declarator.DeclaresComponent name function ∧
        component = Component.ofFunction name function := by
  rw [components_ofTree, List.mem_flatMap]
  constructor
  · rintro ⟨⟨declarator, parent⟩, hentry, hlisted⟩
    dsimp only at hlisted
    split at hlisted
    · rename_i hkind
      obtain ⟨name, function, hdeclares, hcomponent⟩ :=
        (Component.ofTree?_eq_some_iff (beq_iff_eq.mp hkind)).mp (Option.mem_toList.mp hlisted)
      exact ⟨declarator, name, function, Tree.holds_of_mem_walkUnder hentry, hdeclares, hcomponent⟩
    · cases hlisted
  · rintro ⟨declarator, name, function, hholds, hdeclares, hcomponent⟩
    obtain ⟨parent, hentry⟩ := hholds.mem_walkUnder none
    refine ⟨(declarator, parent), hentry, ?_⟩
    rw [if_pos (by simp [Tree.isKind, hdeclares.isDeclarator])]
    exact Option.mem_toList.mpr ((Component.ofTree?_eq_some_iff hdeclares.isDeclarator).mpr
      ⟨name, function, hdeclares, hcomponent⟩)

end Summary

end Restack.Script
