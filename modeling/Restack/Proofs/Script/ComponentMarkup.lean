import Restack.Proofs.Script.Returns
import Restack.Proofs.Script.Summaries
import Restack.Proofs.Script.Units

/-!
# The markup of a component

A component whose body is a block shows the element that its function returns first, unless the
summary comes to a return statement of another function before, or to a comment in front of the
element. Then another element of the function is shown in its place.
-/

namespace Restack.Script

namespace Tree

/-- Whether a part is a comment. -/
def isComment (tree : Tree) : Bool := tree.kind?.any Kind.isComment

/-- The expression within any number of parentheses, whatever comments stand in them. -/
def expression : Tree → Tree
  | .node .parenthesizedExpression label children =>
    inner (.node .parenthesizedExpression label children) children
  | tree => tree
where
  /-- The expression of the first node among the parts that is no comment. -/
  inner (whole : Tree) : List Tree → Tree
    | [] => whole
    | .node kind label children :: rest =>
      if kind.isComment then inner whole rest else expression (.node kind label children)
    | _ :: rest => inner whole rest

/-- What a return statement returns. -/
def given? (statement : Tree) : Option Tree :=
  (statement.nodes.find? (!·.isComment)).map expression

/-- What the summary takes for what a return statement returns: its first node without parentheses,
be it a comment. -/
def taken? (statement : Tree) : Option Tree := statement.nodes.head?.map withoutParens

/-- A node that is no expression in parentheses is left as it is. -/
theorem withoutParens_of_ne {kind : Kind} (h : kind ≠ .parenthesizedExpression)
    (label : Option Label) (children : List Tree) :
    (node kind label children).withoutParens = node kind label children := by
  rw [withoutParens]
  rintro _ _ heq
  cases heq
  exact h rfl

/-- A node that is no expression in parentheses is the expression itself. -/
theorem expression_of_ne {kind : Kind} (h : kind ≠ .parenthesizedExpression)
    (label : Option Label) (children : List Tree) :
    (node kind label children).expression = node kind label children := by
  rw [expression]
  rintro _ _ heq
  cases heq
  exact h rfl

/-- A comment is left as it is. -/
theorem withoutParens_of_isComment {tree : Tree} (h : tree.isComment = true) :
    tree.withoutParens = tree := by
  cases tree with
  | token | blank => rfl
  | node kind label children =>
    refine withoutParens_of_ne ?_ label children
    rintro rfl
    cases h

mutual

/-- Taking off parentheses leads to the expression within them or to a comment. -/
theorem withoutParens_eq (tree : Tree) :
    tree.withoutParens = tree.expression ∨ tree.withoutParens.isComment = true := by
  match tree with
  | .token _ => exact .inl rfl
  | .blank _ => exact .inl rfl
  | .node kind label children =>
    by_cases hkind : kind = .parenthesizedExpression
    · subst hkind
      rw [withoutParens, expression]
      exact inner_eq _ children
    · rw [withoutParens_of_ne hkind, expression_of_ne hkind]
      exact .inl rfl

/-- Within parentheses the first node is either the expression there or a comment. -/
theorem inner_eq (whole : Tree) (parts : List Tree) :
    withoutParens.inner whole parts = expression.inner whole parts ∨
      (withoutParens.inner whole parts).isComment = true := by
  match parts with
  | [] => exact .inl rfl
  | .token _ :: rest => exact inner_eq whole rest
  | .blank _ :: rest => exact inner_eq whole rest
  | .node kind label children :: rest =>
    rw [withoutParens.inner, expression.inner]
    -- The summary stops at the first node, also where that is a comment.
    by_cases hcomment : kind.isComment = true
    · have hnode : (Tree.node kind label children).isComment = true := hcomment
      rw [withoutParens_of_isComment hnode]
      exact .inr hnode
    · rw [if_neg hcomment]
      exact withoutParens_eq (.node kind label children)

end

/-- The summary takes what a statement returns, unless a comment stands in front of it. -/
theorem taken?_eq {statement given : Tree} (h : statement.given? = some given) :
    statement.taken? = some given ∨ ∃ comment, statement.taken? = some comment ∧
      comment.isComment = true := by
  obtain ⟨node, hnode, rfl⟩ := Option.map_eq_some_iff.mp h
  rw [taken?]
  cases hnodes : statement.nodes with
  | nil =>
    rw [hnodes] at hnode
    cases hnode
  | cons first rest =>
    rw [hnodes] at hnode
    rw [List.head?_cons, Option.map_some]
    by_cases hcomment : first.isComment = true
    · rw [withoutParens_of_isComment hcomment]
      exact .inr ⟨first, rfl, hcomment⟩
    · obtain rfl : first = node := by
        rw [List.find?_cons_of_pos (by simpa using hcomment)] at hnode
        exact Option.some.inj hnode
      rcases withoutParens_eq first with heq | hinner
      · exact .inl (congrArg some heq)
      · exact .inr ⟨_, rfl, hinner⟩

mutual

/-- The sites below a tree are of nodes in it. -/
theorem holds_of_mem_sitesBelow {around : List Kind} {tree : Tree} {site : Site}
    (h : site ∈ tree.sitesBelow around) : tree.Holds site.node := by
  cases tree with
  | token | blank => cases h
  | node kind label children =>
    rw [sitesBelow] at h
    rcases List.mem_cons.mp h with rfl | h
    · exact .self kind label children
    · obtain ⟨child, hchild, hsite⟩ := holds_of_mem_sitesOfList h
      exact .within hchild hsite

/-- The sites below some trees are of nodes in one of them. -/
theorem holds_of_mem_sitesOfList {around : List Kind} {trees : List Tree} {site : Site}
    (h : site ∈ sitesOfList around trees) : ∃ tree ∈ trees, tree.Holds site.node := by
  cases trees with
  | nil => cases h
  | cons tree rest =>
    rw [sitesOfList] at h
    rcases List.mem_append.mp h with h | h
    · exact ⟨tree, List.mem_cons_self, holds_of_mem_sitesBelow h⟩
    · obtain ⟨other, hother, hsite⟩ := holds_of_mem_sitesOfList h
      exact ⟨other, List.mem_cons_of_mem _ hother, hsite⟩

end

/-- The own return statement of a block stands in it. -/
theorem holds_ownReturn {block own : Tree} (h : block.ownReturn? = some own) : block.Holds own := by
  obtain ⟨site, hsite, rfl⟩ := Option.map_eq_some_iff.mp h
  have hmem := (List.mem_filter.mp (List.mem_of_find?_eq_some hsite)).1
  obtain ⟨child, hchild, hholds⟩ := holds_of_mem_sitesOfList hmem
  exact .within hchild hholds

mutual

/-- The expression within parentheses is in the tree. -/
theorem holds_expression (kind : Kind) (label : Option Label) (children : List Tree) :
    (node kind label children).Holds (node kind label children).expression := by
  by_cases hkind : kind = .parenthesizedExpression
  · subst hkind
    rw [expression]
    exact holds_inner (.self _ label children) children (List.Subset.refl children)
  · rw [expression_of_ne hkind]
    exact .self kind label children

/-- The expression that is found among the parts of a node is in the tree. -/
theorem holds_inner {whole : Tree} (hself : whole.Holds whole) (parts : List Tree)
    (hparts : parts ⊆ whole.children) : whole.Holds (expression.inner whole parts) := by
  match parts with
  | [] => exact hself
  | .token _ :: rest => exact holds_inner hself rest (List.cons_subset.mp hparts).2
  | .blank _ :: rest => exact holds_inner hself rest (List.cons_subset.mp hparts).2
  | .node kind label children :: rest =>
    obtain ⟨hfirst, hrest⟩ := List.cons_subset.mp hparts
    rw [expression.inner]
    split
    · exact holds_inner hself rest hrest
    · exact .within hfirst (holds_expression kind label children)

end

/-- What a statement returns stands in it. -/
theorem holds_given {statement given : Tree} (h : statement.given? = some given) :
    statement.Holds given := by
  obtain ⟨node, hnode, rfl⟩ := Option.map_eq_some_iff.mp h
  have hmem := List.mem_of_find?_eq_some hnode
  have hself := (List.mem_filter.mp hmem).2
  cases node with
  | token | blank => cases hself
  | node kind label children =>
    exact (Holds.of_mem_nodes hmem).trans (holds_expression kind label children)

end Tree

/-- Every element has a conversion. -/
theorem Markup.exists_ofTree_of_isElement {tree : Tree} (h : Component.isElement tree = true) :
    ∃ markup, Markup.ofTree tree = some markup := by
  cases tree with
  | token | blank => cases h
  | node kind label children =>
    rcases Bool.or_eq_true_iff.mp h with hkind | hkind
    · obtain rfl : kind = .jsxElement := by simpa using hkind
      rw [Markup.ofTree]
      split
      · exact ⟨_, rfl⟩
      · exact ⟨_, rfl⟩
    · obtain rfl : kind = .jsxSelfClosingElement := by simpa using hkind
      rw [Markup.ofTree]
      split
      · exact ⟨_, rfl⟩
      · exact ⟨_, rfl⟩

namespace Component

/-- The first element within a function that holds one. -/
theorem exists_firstElement {function element : Tree} (hholds : function.Holds element)
    (helement : isElement element = true) :
    ∃ first parent, function.walk.find? (fun entry => isElement entry.1) = some (first, parent) ∧
      isElement first = true := by
  obtain ⟨parent, hmem⟩ := hholds.mem_walkUnder none
  have hsome : (function.walk.find? fun entry => isElement entry.1).isSome = true :=
    List.find?_isSome.mpr ⟨(element, parent), hmem, helement⟩
  obtain ⟨⟨first, above⟩, hfirst⟩ := Option.isSome_iff_exists.mp hsome
  have hself := List.find?_some (p := fun entry : Tree × Option Tree => isElement entry.1) hfirst
  exact ⟨first, above, hfirst, hself⟩

/-- What a function with a block returns in the eyes of the summary. -/
theorem returned?_eq {function body : Tree} (hbody : function.part? .body = some body)
    (hblock : body.isKind .statementBlock = true) :
    returned? function = (body.strayReturn?.or body.ownReturn?).bind Tree.taken? := by
  simp only [returned?, hbody, hblock, if_true, Tree.find?_ownNodes hblock, Option.map_bind]
  rfl

/-- The markup of a function that returns an element. -/
theorem ofTree_of_returned {function element : Tree}
    (hreturned : returned? function = some element) (helement : isElement element = true) :
    Markup.ofTree element = some (markupOf function) := by
  obtain ⟨markup, hmarkup⟩ := Markup.exists_ofTree_of_isElement helement
  simp [markupOf, hreturned, helement, hmarkup]

/-- The markup of a function that returns no element itself. -/
theorem ofTree_of_first {function first : Tree} {parent : Option Tree}
    (hreturned : (returned? function).any isElement = false)
    (hfirst : function.walk.find? (fun entry => isElement entry.1) = some (first, parent))
    (helement : isElement first = true) :
    Markup.ofTree first = some (markupOf function) := by
  obtain ⟨markup, hmarkup⟩ := Markup.exists_ofTree_of_isElement helement
  have hfallback : markupOf.firstElement? function = some first := by
    rw [markupOf.firstElement?, hfirst, Option.map_some]
  cases hcase : returned? function with
  | none => simp [markupOf, hcase, hfallback, hmarkup]
  | some tree =>
    rw [hcase] at hreturned
    have hother : isElement tree = false := by simpa using hreturned
    simp [markupOf, hcase, hother, hfallback, hmarkup]

/-- A function with a block that is bound to a name as a component. -/
structure IsBlockComponent (declarator function body : Tree) (component : Component) : Prop where
  bound : declarator.isKind .variableDeclarator = true
  read : ofTree? declarator = some component
  atValue : declarator.part? .value = some function
  atBody : function.part? .body = some body
  isBlock : body.isKind .statementBlock = true

/-- Where the markup of a component comes from whose own return statement returns an element. -/
structure MarkupFrom (function body own element : Tree) (markup : Markup) : Prop where
  /-- The element itself is shown if no return statement of another function comes before and no
  comment stands in front of it. -/
  of_own : body.strayReturn? = none → own.taken?.any Tree.isComment = false →
    Markup.ofTree element = some markup
  /-- Functions within the body decide nothing if none of them is a part of the body itself and no
  return statement stands in a generator expression. -/
  of_nested : (∀ part ∈ body.children, part.kind?.any Kind.holdsBody = false) →
    (∀ site ∈ body.returns, Kind.generatorFunction ∉ site.around) →
    own.taken?.any Tree.isComment = false → Markup.ofTree element = some markup
  /-- An element that another function returns before is shown in its place. -/
  of_stray : ∀ statement other, body.strayReturn? = some statement → statement.taken? = some other →
    isElement other = true → Markup.ofTree other = some markup
  /-- If what the summary takes for returned is no element, the first element of the function is
  shown, wherever it stands. -/
  of_first : (body.strayReturn?.getD own).taken?.any isElement = false →
    ∃ first parent, function.walk.find? (fun entry => isElement entry.1) = some (first, parent) ∧
      Markup.ofTree first = some markup

/-- The markup of a component is that of the function that is bound to its name. -/
theorem IsBlockComponent.markup_eq {declarator function body : Tree} {component : Component}
    (h : IsBlockComponent declarator function body component) :
    component.markup = markupOf function := by
  obtain ⟨name, other, hdeclares, rfl⟩ :=
    (ofTree?_eq_some_iff (beq_iff_eq.mp h.bound)).mp h.read
  obtain rfl := Option.some.inj (hdeclares.atValue.symm.trans h.atValue)
  rfl

/-- The summary of a script lists each component whose function has a block, and tells where its
markup comes from if its own return statement returns an element. -/
theorem markup_of_ownReturn {tree declarator function body own element : Tree}
    {parent : Option Tree} {component : Component}
    (hlisted : (declarator, parent) ∈ tree.walk)
    (hcomponent : IsBlockComponent declarator function body component)
    (hown : body.ownReturn? = some own) (hgiven : own.given? = some element)
    (helement : isElement element = true) :
    component ∈ (Summary.ofTree tree).components ∧
      MarkupFrom function body own element component.markup := by
  have hmarkup := hcomponent.markup_eq
  have hreturned : returned? function = (body.strayReturn?.getD own).taken? := by
    rw [returned?_eq hcomponent.atBody hcomponent.isBlock, hown, Option.or_some, Option.bind_some]
  -- The element is a node of the function, so a search for any element succeeds.
  have hholds : function.Holds element :=
    (Tree.Holds.of_part? hcomponent.atBody).trans
      ((Tree.holds_ownReturn hown).trans (Tree.holds_given hgiven))
  have hfromOwn : body.strayReturn? = none → own.taken?.any Tree.isComment = false →
      Markup.ofTree element = some component.markup := by
    intro hstray hcomment
    rw [hstray, Option.getD_none] at hreturned
    rw [hmarkup]
    rcases Tree.taken?_eq hgiven with htaken | ⟨comment, htaken, his⟩
    · exact ofTree_of_returned (hreturned.trans htaken) helement
    · rw [htaken, Option.any_some, his] at hcomment
      cases hcomment
  refine ⟨?_, hfromOwn, ?_, ?_, ?_⟩
  · rw [Summary.components_ofTree, List.mem_flatMap]
    refine ⟨(declarator, parent), hlisted, ?_⟩
    rw [if_pos hcomponent.bound, hcomponent.read]
    exact List.mem_singleton_self component
  · intro hparts hplain
    exact hfromOwn (Tree.strayReturn?_eq_none hparts hplain)
  · intro statement other hstray htaken hother
    rw [hstray, Option.getD_some, htaken] at hreturned
    rw [hmarkup]
    exact ofTree_of_returned hreturned hother
  · intro hnone
    obtain ⟨first, above, hfirst, his⟩ := exists_firstElement hholds helement
    rw [hmarkup]
    exact ⟨first, above, hfirst, ofTree_of_first (by rw [hreturned, hnone]) hfirst his⟩

/-- The tree of a name. -/
def nameTree (name : String) : Tree := .node .identifier (some .name) [.token name]

/-- The tree of an element without attributes and parts, such as `<ul/>`. -/
def bareElement (name : String) : Tree :=
  .node .jsxSelfClosingElement none [.token "<", nameTree name, .token "/>"]

/-- The tree of a return statement. -/
def returning (value : Tree) : Tree :=
  .node .returnStatement none [.token "return", .blank " ", value, .token ";"]

/-- The tree of a block on one line. -/
def blockOf (statements : List Tree) : Tree :=
  .node .statementBlock (some .body)
    (.token "\x7b" :: statements.flatMap (fun statement => [.blank " ", statement]) ++
      [.blank " ", .token "\x7d"])

/-- The tree of empty parameters. -/
def noParams : Tree := .node .formalParameters (some .parameters) [.token "(", .token ")"]

/-- The tree of an arrow function without parameters. -/
def arrowOf (statements : List Tree) : Tree :=
  .node .arrowFunction (some .value)
    [noParams, .blank " ", .token "=>", .blank " ", blockOf statements]

/-- The tree of a function declaration without parameters. -/
def declaring (name : String) (statements : List Tree) : Tree :=
  .node .functionDeclaration none
    [.token "function", .blank " ", nameTree name, noParams, .blank " ", blockOf statements]

/-- The tree of a name that is bound to an arrow function. -/
def binding (name : String) (statements : List Tree) : Tree :=
  .node .variableDeclarator none
    [nameTree name, .blank " ", .token "=", .blank " ", arrowOf statements]

/-- The tree of a constant. -/
def constant (declarator : Tree) : Tree :=
  .node .lexicalDeclaration none [.token "const", .blank " ", declarator, .token ";"]

/-- The element is shown although an arrow function that is bound in the block returns another one
before. -/
theorem markup_of_ownReturn_bound :
    let statements :=
      [constant (binding "row" [returning (bareElement "li")]), returning (bareElement "ul")]
    ∃ component, component ∈ (Summary.ofTree (constant (binding "App" statements))).components ∧
      Markup.ofTree (bareElement "ul") = some component.markup := by
  intro statements
  have hlisted : (constant (binding "App" statements)).walk[1]? =
      some (binding "App" statements, some (constant (binding "App" statements))) := rfl
  obtain ⟨hmem, hfrom⟩ := markup_of_ownReturn (List.mem_of_getElem? hlisted)
    ⟨rfl, rfl, rfl, rfl, rfl⟩ rfl rfl rfl
  exact ⟨_, hmem, hfrom.of_own rfl rfl⟩

/-- The element that a function declared in the block returns is shown in place of the component's
own. -/
theorem inner_element_is_shown :
    let statements := [declaring "Row" [returning (bareElement "li")], returning (bareElement "ul")]
    let own := returning (bareElement "ul")
    (constant (binding "App" statements)).text =
        "const App = () => \x7b function Row() \x7b return <li/>; \x7d return <ul/>; \x7d;" ∧
      (blockOf statements).ownReturn? = some own ∧ own.given? = some (bareElement "ul") ∧
      isElement (bareElement "ul") = true ∧
      ∃ component,
        IsBlockComponent (binding "App" statements) (arrowOf statements) (blockOf statements)
          component ∧
        Markup.ofTree (bareElement "ul") ≠ some component.markup := by
  refine ⟨by decide +kernel, rfl, rfl, rfl, _, ⟨rfl, rfl, rfl, rfl, rfl⟩, ?_⟩
  intro hshown
  injection hshown with hshown
  injection hshown with hname
  exact absurd hname (by decide)

end Component

end Restack.Script
