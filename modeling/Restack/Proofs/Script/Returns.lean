import Mathlib.Data.List.TakeWhile
import Restack.Script.Summary

/-!
# Return statements of a block

Each node within a block stands in a chain of nodes, from the part of the block that holds it
inwards. A return statement belongs to the function whose body the block is if no function is in its
chain. The summary of a script looks at some more: it enters functions that are parts of the block
themselves, and generator expressions wherever they stand.
-/

namespace Restack.Script

/-- Nodes that hold the body of a function of their own, generator expressions among them. -/
def Kind.holdsBody (kind : Kind) : Bool := kind.isFunction || kind == .generatorFunction

/-- A node within a block. -/
structure Site where
  node : Tree
  /-- The kinds of the nodes between the block and the node, the outermost first. -/
  around : List Kind

namespace Site

/-- Whether a node belongs to the function whose body the block is. -/
def isOwn (site : Site) : Bool := site.around.all (!·.holdsBody)

/-- Whether the summary comes to a node: it enters each part of the block, and what is no function
within. -/
def isSeen (site : Site) : Bool := site.around.tail.all (!·.isFunction)

/-- Whether a node is a return statement. -/
def isReturn (site : Site) : Bool := site.node.isKind .returnStatement

/-- What belongs to the function itself is seen. -/
theorem isSeen_of_isOwn {site : Site} (h : site.isOwn = true) : site.isSeen = true := by
  refine List.all_eq_true.mpr fun kind hkind => ?_
  have hown := List.all_eq_true.mp h kind (List.mem_of_mem_tail hkind)
  unfold Kind.holdsBody at hown
  simp only [Bool.not_eq_true', Bool.or_eq_false_iff] at hown ⊢
  exact hown.1

end Site

namespace Tree

mutual

/-- The nodes of a tree in order, each with the nodes around it. -/
def sitesBelow (around : List Kind) : Tree → List Site
  | .token _ => []
  | .blank _ => []
  | .node kind label children =>
    ⟨.node kind label children, around⟩ :: sitesOfList (around ++ [kind]) children

/-- The nodes of several trees that stand in the same nodes. -/
def sitesOfList (around : List Kind) : List Tree → List Site
  | [] => []
  | tree :: rest => tree.sitesBelow around ++ sitesOfList around rest

end

/-- The return statements in a block, those of all functions within it among them. -/
def returns (block : Tree) : List Site := (sitesOfList [] block.children).filter Site.isReturn

/-- The first return statement of the function whose body the block is. -/
def ownReturn? (block : Tree) : Option Tree := (block.returns.find? Site.isOwn).map Site.node

/-- The first return statement of another function that the summary comes to before the function's
own. -/
def strayReturn? (block : Tree) : Option Tree :=
  ((block.returns.takeWhile (!·.isOwn)).find? Site.isSeen).map Site.node

mutual

/-- Every node of a tree stands in whatever the tree stands in. -/
theorem prefix_of_mem_sitesBelow {around : List Kind} {tree : Tree} {site : Site}
    (h : site ∈ tree.sitesBelow around) : around <+: site.around := by
  cases tree with
  | token | blank => cases h
  | node kind label children =>
    rw [sitesBelow] at h
    rcases List.mem_cons.mp h with rfl | h
    · exact List.prefix_rfl
    · exact (List.prefix_append around [kind]).trans (prefix_of_mem_sitesOfList h)

/-- Every node of some trees stands in whatever the trees stand in. -/
theorem prefix_of_mem_sitesOfList {around : List Kind} {trees : List Tree} {site : Site}
    (h : site ∈ sitesOfList around trees) : around <+: site.around := by
  cases trees with
  | nil => cases h
  | cons tree rest =>
    rw [sitesOfList] at h
    rcases List.mem_append.mp h with h | h
    · exact prefix_of_mem_sitesBelow h
    · exact prefix_of_mem_sitesOfList h

end

/-- A node within a block is one of its parts or stands in one of them. -/
theorem around_of_mem_sites {block : Tree} {site : Site}
    (h : site ∈ sitesOfList [] block.children) :
    site.around = [] ∨ ∃ part ∈ block.children, ∃ kind rest,
      part.kind? = some kind ∧ site.around = kind :: rest := by
  suffices hall : ∀ trees : List Tree, site ∈ sitesOfList [] trees → site.around = [] ∨
      ∃ part ∈ trees, ∃ kind rest, part.kind? = some kind ∧ site.around = kind :: rest by
    exact hall block.children h
  intro trees hsite
  induction trees with
  | nil => cases hsite
  | cons tree others ih =>
    rw [sitesOfList] at hsite
    rcases List.mem_append.mp hsite with hsite | hsite
    · cases tree with
      | token | blank => cases hsite
      | node kind label children =>
        rw [sitesBelow] at hsite
        rcases List.mem_cons.mp hsite with rfl | hsite
        · exact .inl rfl
        · obtain ⟨rest, heq⟩ := prefix_of_mem_sitesOfList hsite
          exact .inr ⟨_, List.mem_cons_self, kind, rest, rfl, heq.symm⟩
    · refine (ih hsite).imp_right ?_
      rintro ⟨part, hpart, hkind⟩
      exact ⟨part, List.mem_cons_of_mem _ hpart, hkind⟩

/-- There is no stray return statement in a block if none of its parts is a function and no return
statement stands in a generator expression. -/
theorem strayReturn?_eq_none {block : Tree}
    (hparts : ∀ part ∈ block.children, part.kind?.any Kind.holdsBody = false)
    (hplain : ∀ site ∈ block.returns, Kind.generatorFunction ∉ site.around) :
    block.strayReturn? = none := by
  refine Option.map_eq_none_iff.mpr (List.find?_eq_none.mpr fun site hsite hseen => ?_)
  have hother : site.isOwn = false := by simpa using List.mem_takeWhile_imp hsite
  have hreturn : site ∈ block.returns := (List.takeWhile_sublist _).subset hsite
  obtain ⟨kind, hkind, hbody⟩ := List.all_eq_false.mp hother
  rcases around_of_mem_sites (List.mem_filter.mp hreturn).1 with hnone | hpart
  · rw [hnone] at hkind
    cases hkind
  · obtain ⟨part, hmem, first, rest, hfirst, heq⟩ := hpart
    rw [heq] at hkind
    rcases List.mem_cons.mp hkind with rfl | hrest
    · have hopen := hparts part hmem
      rw [hfirst, Option.any_some] at hopen
      simp [hopen] at hbody
    · have hclosed : kind.isFunction = false := by
        rw [Site.isSeen, heq] at hseen
        simpa using List.all_eq_true.mp hseen kind hrest
      have hgenerator : kind = .generatorFunction := by
        simpa [Kind.holdsBody, hclosed] using hbody
      exact hplain site hreturn (heq ▸ hgenerator ▸ List.mem_cons_of_mem _ hrest)

/-- Nothing within a function below the parts of the block is seen. -/
theorem isSeen_eq_false {around : List Kind} {kind : Kind} {site : Site}
    (hkind : kind.isFunction = true) (hmem : kind ∈ around.tail)
    (h : around <+: site.around) : site.isSeen = false := by
  have htail : kind ∈ site.around.tail := by
    obtain ⟨inner, heq⟩ := h
    rw [← heq]
    cases around with
    | nil => cases hmem
    | cons _ rest => exact List.mem_append_left inner hmem
  refine List.all_eq_false.mpr ⟨kind, htail, ?_⟩
  simp [hkind]

/-- A node that is seen is among the return statements on both sides or on neither. -/
theorem filter_cons_site {tree : Tree} {around : List Kind} {nodes : List Tree} {sites : List Site}
    (hseen : (Site.mk tree around).isSeen = true)
    (h : nodes.filter (isKind .returnStatement) =
      (sites.filter fun site => site.isSeen && site.isReturn).map Site.node) :
    (tree :: nodes).filter (isKind .returnStatement) =
      ((⟨tree, around⟩ :: sites).filter fun site => site.isSeen && site.isReturn).map
        Site.node := by
  rw [List.filter_cons, List.filter_cons, hseen, Bool.true_and, h, Site.isReturn]
  split
  · rw [List.map_cons]
  · rfl

mutual

/-- The return statements that the summary comes to within a part of a part of the block. -/
theorem filter_ownNodesBelow {around : List Kind} (hdeep : around ≠ [])
    (hopen : around.tail.all (!·.isFunction) = true) (tree : Tree) :
    (tree.ownNodesBelow true).filter (isKind .returnStatement) =
      ((tree.sitesBelow around).filter fun site => site.isSeen && site.isReturn).map Site.node := by
  cases tree with
  | token | blank => rfl
  | node kind label children =>
    have htail : (around ++ [kind]).tail = around.tail ++ [kind] := List.tail_append_of_ne_nil hdeep
    rw [ownNodesBelow, sitesBelow]
    cases hkind : kind.isFunction with
    | true =>
      -- The walk leaves the function out as a whole, so nothing of it may count as seen.
      have hnone : ∀ site ∈ (⟨.node kind label children, around⟩ : Site) ::
          sitesOfList (around ++ [kind]) children, ¬(site.isSeen && site.isReturn) = true := by
        intro site hsite
        rcases List.mem_cons.mp hsite with rfl | hsite
        · have hother : kind ≠ .returnStatement := by
            rintro rfl
            cases hkind
          simp [Site.isReturn, isKind, kind?, hother]
        · have hunseen := isSeen_eq_false hkind (by simp [htail]) (prefix_of_mem_sitesOfList hsite)
          simp [hunseen]
      rw [if_pos (Bool.and_self true), List.filter_eq_nil_iff.mpr hnone]
      rfl
    | false =>
      have hnext : (around ++ [kind]).tail.all (!·.isFunction) = true := by
        simp [htail, hopen, hkind]
      rw [if_neg (by simp)]
      exact filter_cons_site hopen (filter_ownNodesOfList (by simp) hnext children)

/-- The return statements that the summary comes to within some parts of a part of the block. -/
theorem filter_ownNodesOfList {around : List Kind} (hdeep : around ≠ [])
    (hopen : around.tail.all (!·.isFunction) = true) (trees : List Tree) :
    (ownNodesOfList true trees).filter (isKind .returnStatement) =
      ((sitesOfList around trees).filter fun site => site.isSeen && site.isReturn).map
        Site.node := by
  cases trees with
  | nil => rfl
  | cons tree rest =>
    rw [ownNodesOfList, sitesOfList, List.filter_append, List.filter_append, List.map_append,
      filter_ownNodesBelow hdeep hopen tree, filter_ownNodesOfList hdeep hopen rest]

end

/-- The return statements that the summary comes to within the parts of the block. -/
theorem filter_ownNodesOfList_false (trees : List Tree) :
    (ownNodesOfList false trees).filter (isKind .returnStatement) =
      ((sitesOfList [] trees).filter fun site => site.isSeen && site.isReturn).map Site.node := by
  induction trees with
  | nil => rfl
  | cons tree rest ih =>
    rw [ownNodesOfList, sitesOfList, List.filter_append, List.filter_append, List.map_append, ih]
    congr 1
    cases tree with
    | token | blank => rfl
    | node kind label children =>
      rw [ownNodesBelow, sitesBelow, if_neg (by simp)]
      exact filter_cons_site rfl (filter_ownNodesOfList (by simp) rfl children)

/-- What comes first among some items is what comes first among fewer of them, unless it stands
before it. -/
theorem find?_eq_or {α : Type} {p q : α → Bool} (h : ∀ a, p a = true → q a = true)
    (items : List α) :
    items.find? q = ((items.takeWhile (!p ·)).find? q).or (items.find? p) := by
  induction items with
  | nil => rfl
  | cons a rest ih =>
    cases hp : p a with
    | true => simp [hp, h a hp]
    | false =>
      cases hq : q a with
      | true => simp [hp, hq]
      | false => simp [hp, hq, ih]

/-- The return statement that the summary looks at: a stray one, or else the function's own. -/
theorem find?_ownNodes {block : Tree} (hblock : block.isKind .statementBlock = true) :
    block.ownNodes.find? (isKind .returnStatement) = block.strayReturn?.or block.ownReturn? := by
  cases block with
  | token | blank => cases hblock
  | node kind label children =>
    obtain rfl : kind = .statementBlock := by simpa [isKind, kind?] using hblock
    have hreturns : (Tree.node .statementBlock label children).returns =
        (sitesOfList [] children).filter Site.isReturn := rfl
    rw [ownNodes, List.find?_cons_of_neg (by simp [isKind, kind?]), ← List.head?_filter,
      filter_ownNodesOfList_false, ← List.filter_filter, List.head?_map, List.head?_filter,
      ← hreturns, find?_eq_or (fun _ => Site.isSeen_of_isOwn), strayReturn?, ownReturn?,
      Option.map_or]

end Tree

end Restack.Script
