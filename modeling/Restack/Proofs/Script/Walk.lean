import Restack.Script.Tree

/-!
# Walks through a tree

A walk through a syntax tree comes to every node that stands within it, and to nothing else.
-/

namespace Restack.Script.Tree

/-- A tree and whatever nodes stand within it. -/
inductive Holds : Tree → Tree → Prop where
  | self (kind : Kind) (label : Option Label) (children : List Tree) :
    Holds (.node kind label children) (.node kind label children)
  | within {whole child node : Tree} (hchild : child ∈ whole.children) (h : Holds child node) :
    Holds whole node

/-- A walk through trees comes to all that a walk through one of them comes to. -/
theorem mem_walkList {parent : Option Tree} {trees : List Tree} {tree : Tree}
    {entry : Tree × Option Tree} (htree : tree ∈ trees) (h : entry ∈ tree.walkUnder parent) :
    entry ∈ walkList parent trees := by
  induction trees with
  | nil => cases htree
  | cons first rest ih =>
    rw [walkList]
    rcases List.mem_cons.mp htree with rfl | htree
    · exact List.mem_append_left _ h
    · exact List.mem_append_right _ (ih htree)

namespace Holds

variable {whole node : Tree}

/-- A walk through a tree comes to every node within it. -/
theorem mem_walkUnder (h : Holds whole node) (above : Option Tree) :
    ∃ parent, (node, parent) ∈ whole.walkUnder above := by
  induction h generalizing above with
  | self kind label children =>
    rw [walkUnder]
    exact ⟨above, List.mem_cons_self⟩
  | @within whole child node hchild h ih =>
    cases whole with
    | token | blank => cases hchild
    | node kind label children =>
      obtain ⟨parent, hparent⟩ := ih (some (.node kind label children))
      rw [walkUnder]
      exact ⟨parent, List.mem_cons_of_mem _ (mem_walkList hchild hparent)⟩

/-- What is in a part is in the whole. -/
theorem trans {inner : Tree} (h : Holds whole node) (hinner : Holds node inner) :
    Holds whole inner := by
  induction h with
  | self => exact hinner
  | within hchild _ ih => exact .within hchild (ih hinner)

/-- The nodes of a tree are in it. -/
theorem of_mem_nodes (h : node ∈ whole.nodes) : Holds whole node := by
  obtain ⟨hchild, hnode⟩ := List.mem_filter.mp h
  cases node with
  | token | blank => cases hnode
  | node kind label children => exact .within hchild (.self kind label children)

/-- The parts with roles are in the tree. -/
theorem of_part? {label : Label} (h : whole.part? label = some node) : Holds whole node := by
  have hchild := List.mem_of_find?_eq_some h
  have hlabel := List.find?_some h
  cases node with
  | token | blank => cases hlabel
  | node kind label children => exact .within hchild (.self kind label children)

end Holds

mutual

/-- A walk through a tree comes only to nodes within it. -/
theorem holds_of_mem_walkUnder {tree : Tree} {parent : Option Tree} {entry : Tree × Option Tree}
    (h : entry ∈ tree.walkUnder parent) : tree.Holds entry.1 := by
  cases tree with
  | token | blank => cases h
  | node kind label children =>
    rw [walkUnder] at h
    rcases List.mem_cons.mp h with rfl | h
    · exact .self kind label children
    · obtain ⟨child, hchild, hentry⟩ := holds_of_mem_walkList h
      exact .within hchild hentry

/-- A walk through trees comes to nodes in one of them. -/
theorem holds_of_mem_walkList {trees : List Tree} {parent : Option Tree}
    {entry : Tree × Option Tree} (h : entry ∈ walkList parent trees) :
    ∃ tree ∈ trees, tree.Holds entry.1 := by
  cases trees with
  | nil => cases h
  | cons tree rest =>
    rw [walkList] at h
    rcases List.mem_append.mp h with h | h
    · exact ⟨tree, List.mem_cons_self, holds_of_mem_walkUnder h⟩
    · obtain ⟨other, hother, hentry⟩ := holds_of_mem_walkList h
      exact ⟨other, List.mem_cons_of_mem _ hother, hentry⟩

end

end Restack.Script.Tree
