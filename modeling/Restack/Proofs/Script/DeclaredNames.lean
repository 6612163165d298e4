import Restack.Proofs.Script.Conventions
import Restack.Proofs.Script.Derivations

/-!
# The names of declared functions

Every node of a script is a single unit, a comment, stands in a guise, or is a line of its kind. The
lines of functions that are declared name the function before anything else that may have a role, so
that the name of such a function is a single name, within which no line ends.
-/

namespace Restack.Script

/-- What a node of a script is made of. -/
inductive Tree.Formed (grammar : Rule → Form) : Tree → Prop where
  | unit {what : Terminal} {kind : Kind} (label : Option Label) {text : List Char}
    (hkind : what.kind? = some kind) (h : what.Spells text) :
    Formed grammar (.node kind label [.token (String.ofList text)])
  | comment {kind : Kind} (label : Option Label) (text : String) (h : kind.isComment = true) :
    Formed grammar (.node kind label [.token text])
  | guise (guise : Guise) (label : Option Label) (children : List Tree) :
    Formed grammar (.node guise.kind label children)
  | line {kind : Kind} (label : Option Label) {line : Line} {parts : List Tree}
    (hkind : kind.isUnit = false) (hline : line ∈ (Symbol.rule (.node kind)).lines grammar)
    (h : Row grammar line.steps.reverse parts) :
    Formed grammar (.node kind label parts.reverse)

/-- Every node of a tree is made of what it should be. -/
def Tree.AllFormed (grammar : Rule → Form) (tree : Tree) : Prop :=
  ∀ node, tree.Holds node → node.Formed grammar

namespace Tree

variable {grammar : Rule → Form}

/-- A node is formed throughout if it is formed and its parts are so throughout. -/
theorem allFormed_node {kind : Kind} {label : Option Label} {children : List Tree}
    (h : (node kind label children).Formed grammar)
    (hchildren : ∀ child ∈ children, child.AllFormed grammar) :
    (node kind label children).AllFormed grammar := by
  intro inner hinner
  cases hinner with
  | self => exact h
  | within hchild hinner => exact hchildren _ hchild inner hinner

/-- The parts of a tree that is formed throughout are so too. -/
theorem AllFormed.of_mem_children {tree child : Tree} (h : tree.AllFormed grammar)
    (hchild : child ∈ tree.children) : child.AllFormed grammar :=
  fun inner hinner => h inner (.within hchild hinner)

/-- There are no nodes in a token. -/
theorem allFormed_token (text : String) : (token text).AllFormed grammar := by
  intro inner hinner
  cases hinner with
  | within hchild => cases hchild

/-- What stands between units is formed throughout. -/
theorem IsExtra.allFormed {tree : Tree} (h : tree.IsExtra) : tree.AllFormed grammar := by
  cases h with
  | blank =>
    intro inner hinner
    cases hinner with
    | within hchild => cases hchild
  | comment text hkind =>
    refine allFormed_node (.comment none text hkind) fun child hchild => ?_
    rw [List.mem_singleton.mp hchild]
    exact allFormed_token text

/-- A role does not matter to what a node is made of. -/
theorem AllFormed.withLabel {tree : Tree} (h : tree.AllFormed grammar) (label : Label) :
    (tree.withLabel label).AllFormed grammar := by
  cases tree with
  | token | blank => exact h
  | node kind old children =>
    refine allFormed_node ?_ fun child hchild => h.of_mem_children hchild
    cases h _ (.self kind old children) with
    | unit _ hkind hspells => exact .unit (some label) hkind hspells
    | comment _ text hkind => exact .comment (some label) text hkind
    | guise guise => exact .guise guise (some label) children
    | line _ hkind hline hrow => exact .line (some label) hkind hline hrow

/-- A guise does not matter to how parts are formed. -/
theorem allFormed_inGuise (guise : Guise) {parts : List Tree}
    (h : ∀ part ∈ parts, part.AllFormed grammar) :
    ∀ part ∈ inGuise guise parts, part.AllFormed grammar := by
  unfold inGuise
  split
  · rename_i kind label children
    split
    · exact h
    · intro part hpart
      rw [List.mem_singleton.mp hpart]
      exact allFormed_node (.guise guise label children) fun child hchild =>
        (h _ List.mem_cons_self).of_mem_children hchild
  · split
    · exact h
    · intro part hpart
      rw [List.mem_singleton.mp hpart]
      exact allFormed_node (.guise guise none _) fun child hchild =>
        h child (List.mem_reverse.mp hchild)

/-- Neither the guise nor the role of a step matters to how parts are formed. -/
theorem allFormed_atStep (step : Step) {parts : List Tree}
    (h : ∀ part ∈ parts, part.AllFormed grammar) :
    ∀ part ∈ atStep step parts, part.AllFormed grammar := by
  obtain ⟨symbol, tier, side, guise, label⟩ := step
  have hlabelled : ∀ parts : List Tree, (∀ part ∈ parts, part.AllFormed grammar) →
      ∀ part ∈ atStep ⟨symbol, tier, side, none, label⟩ parts, part.AllFormed grammar := by
    intro parts hparts
    unfold atStep
    dsimp only
    split
    · rename_i label part
      intro other hother
      rw [List.mem_singleton.mp hother]
      exact (hparts part List.mem_cons_self).withLabel label
    · exact hparts
  cases guise with
  | none => exact hlabelled parts h
  | some guise => exact hlabelled _ (allFormed_inGuise guise h)

/-- A unit gives a node that is formed as one. -/
theorem allFormed_ofUnit {what : Terminal} {text : List Char} (h : what.Spells text) :
    ∀ part ∈ ofUnit what text, part.AllFormed grammar := by
  intro part hpart
  unfold ofUnit at hpart
  split at hpart
  · rename_i kind hkind
    rw [List.mem_singleton.mp hpart]
    refine allFormed_node (.unit none hkind h) fun child hchild => ?_
    rw [List.mem_singleton.mp hchild]
    exact allFormed_token _
  · split at hpart
    · cases hpart
    · rw [List.mem_singleton.mp hpart]
      exact allFormed_token _

/-- A line gives a node that is formed by it. -/
theorem allFormed_ofLine {owner : Symbol} {line : Line} {parts : List Tree}
    (hline : line ∈ owner.lines grammar) (hrow : Row grammar line.steps.reverse parts)
    (h : ∀ part ∈ parts, part.AllFormed grammar) :
    ∀ part ∈ ofLine owner parts, part.AllFormed grammar := by
  unfold ofLine
  split
  · split
    · exact h
    · rename_i hunit
      intro part hpart
      rw [List.mem_singleton.mp hpart]
      exact allFormed_node (.line none (Bool.eq_false_iff.mpr hunit) hline hrow) fun child hchild =>
        h child (List.mem_reverse.mp hchild)
  · exact h

end Tree

variable {grammar : Rule → Form}

mutual

/-- All nodes of derived parts are made of what they should be. -/
theorem Derives.allFormed {symbol : Symbol} {parts : List Tree} :
    Derives grammar symbol parts → ∀ part ∈ parts, part.AllFormed grammar
  | .unit h => Tree.allFormed_ofUnit h
  | .line hline hrow => Tree.allFormed_ofLine hline hrow hrow.allFormed

/-- The parts of a row are formed throughout, by induction on the row with the parts of each step.
-/
theorem Row.allFormed {steps : List Step} {parts : List Tree} :
    Row grammar steps parts → ∀ part ∈ parts, part.AllFormed grammar
  | .nil => nofun
  | .cons hderives hbefore hrest _ =>
    List.forall_mem_append.mpr ⟨List.forall_mem_append.mpr
      ⟨Tree.allFormed_atStep _ hderives.allFormed,
        fun part hpart => (hbefore part hpart).allFormed⟩, hrest.allFormed⟩

end

/-- Whether a part plays a role. -/
def Tree.hasLabel (label : Label) : Tree → Bool
  | .node _ l _ => l == some label
  | _ => false

/-- The part with a role is the first one that has it. -/
theorem Tree.part?_node (kind : Kind) (own : Option Label) (children : List Tree) (label : Label) :
    (Tree.node kind own children).part? label = children.find? (Tree.hasLabel label) :=
  rfl

namespace Step

/-- Whether a step is a unit that is no node. -/
def isBare (step : Step) : Bool :=
  match step.symbol with
  | .terminal what => what.kind?.isNone && step.manner.guise.isNone
  | _ => false

/-- Whether a step is a name in the role of one. -/
def isName (step : Step) : Bool :=
  step.symbol == .terminal .name && step.manner.guise.isNone && step.manner.label == some .name

/-- Whether steps name what they stand for before anything else that may have a role. -/
def namesFirst : List Step → Bool
  | [] => false
  | step :: rest => step.isName || (step.isBare && namesFirst rest)

/-- A further step matters to the name only if nothing before it may have a role. -/
theorem namesFirst_concat (steps : List Step) (last : Step) :
    namesFirst (steps ++ [last]) = (namesFirst steps || (steps.all isBare && last.isName)) := by
  induction steps with
  | nil => simp [namesFirst]
  | cons step rest ih =>
    rw [List.cons_append, namesFirst, namesFirst, ih, List.all_cons]
    cases step.isName <;> cases step.isBare <;> rfl

variable {step : Step} {parts : List Tree}

/-- A unit that is no node has no role. -/
theorem hasLabel_of_isBare (hstep : step.isBare = true) (h : Derives grammar step.symbol parts)
    (label : Label) : ∀ part ∈ Tree.atStep step parts, part.hasLabel label = false := by
  obtain ⟨symbol, tier, side, guise, role⟩ := step
  cases symbol with
  | terminal what =>
    obtain ⟨hkind, hguise⟩ := Bool.and_eq_true_iff.mp hstep
    obtain rfl := Option.isNone_iff_eq_none.mp hguise
    have htokens : ∀ part ∈ parts, ∃ text, part = .token text := by
      cases h with
      | unit =>
        rw [Tree.ofUnit, Option.isNone_iff_eq_none.mp hkind]
        dsimp only
        split
        · exact nofun
        · exact fun part hpart => ⟨_, List.mem_singleton.mp hpart⟩
      | line hline => cases hline
    intro part hpart
    unfold Tree.atStep at hpart
    dsimp only at hpart
    split at hpart
    · rename_i other
      obtain ⟨text, rfl⟩ := htokens other List.mem_cons_self
      rw [List.mem_singleton.mp hpart]
      rfl
    · obtain ⟨text, rfl⟩ := htokens part hpart
      rfl
  | rule => cases hstep
  | repeated => cases hstep

/-- A name in the role of one is a single name. -/
theorem atStep_of_isName (hstep : step.isName = true) (h : Derives grammar step.symbol parts) :
    ∃ text, IsNameText text ∧ Tree.atStep step parts =
      [.node .identifier (some .name) [.token (String.ofList text)]] := by
  obtain ⟨symbol, tier, side, guise, role⟩ := step
  simp only [isName, Bool.and_eq_true, beq_iff_eq, Option.isNone_iff_eq_none] at hstep
  obtain ⟨⟨rfl, rfl⟩, rfl⟩ := hstep
  cases h with
  | unit hspells => exact ⟨_, hspells, rfl⟩
  | line hline => cases hline

end Step

namespace Row

variable {steps : List Step} {parts : List Tree}

/-- Where no step may have a role no part has one. -/
theorem hasLabel_of_isBare (h : Row grammar steps parts) (hsteps : steps.all Step.isBare = true)
    (label : Label) : ∀ part ∈ parts, part.hasLabel label = false := by
  induction steps generalizing parts with
  | nil =>
    cases h
    exact nofun
  | cons step rest ih =>
    rw [List.all_cons, Bool.and_eq_true] at hsteps
    cases h with
    | cons hderives hbefore hrest =>
      refine List.forall_mem_append.mpr ⟨List.forall_mem_append.mpr ⟨?_, ?_⟩, ih hrest hsteps.2⟩
      · exact Step.hasLabel_of_isBare hsteps.1 hderives label
      · intro part hpart
        cases hbefore part hpart <;> rfl

/-- What steps that name what they stand for first are called: a single name. -/
theorem find?_name (h : Row grammar steps parts)
    (hsteps : Step.namesFirst steps.reverse = true) :
    ∃ text, IsNameText text ∧ parts.reverse.find? (Tree.hasLabel .name) =
      some (.node .identifier (some .name) [.token (String.ofList text)]) := by
  induction steps generalizing parts with
  | nil => cases hsteps
  | cons step rest ih =>
    rw [List.reverse_cons, Step.namesFirst_concat, Bool.or_eq_true] at hsteps
    cases h with
    | @cons _ _ parts before earlier hderives hbefore hrest =>
      rw [List.reverse_append, List.find?_append]
      rcases hsteps with hsteps | hlast
      · obtain ⟨text, htext, hfind⟩ := ih hrest hsteps
        exact ⟨text, htext, by rw [hfind, Option.some_or]⟩
      · rw [Bool.and_eq_true, List.all_reverse] at hlast
        obtain ⟨text, htext, hname⟩ := Step.atStep_of_isName hlast.2 hderives
        have hearlier := hrest.hasLabel_of_isBare hlast.1 .name
        have hnone : earlier.reverse.find? (Tree.hasLabel .name) = none := by
          rw [List.find?_eq_none]
          intro part hpart
          simp [hearlier part (List.mem_reverse.mp hpart)]
        have hextra : before.reverse.find? (Tree.hasLabel .name) = none := by
          rw [List.find?_eq_none]
          intro part hpart
          cases hbefore part (List.mem_reverse.mp hpart) <;> simp [Tree.hasLabel]
        refine ⟨text, htext, ?_⟩
        rw [hnone, Option.none_or, List.reverse_append, List.find?_append, hextra, Option.none_or,
          hname]
        rfl

end Row

/-- No guise is that of a declared function. -/
theorem Guise.declaresFunction_kind (guise : Guise) : guise.kind.declaresFunction = false := by
  cases guise <;> rfl

/-- The lines of functions that are declared name them first. -/
theorem namesFirst_of_declaresFunction (dialect : Dialect) {kind : Kind}
    (h : kind.declaresFunction = true) :
    ∀ line ∈ (Symbol.rule (.node kind)).lines (Script.grammar dialect),
      Step.namesFirst line.steps = true := by
  rcases Bool.or_eq_true_iff.mp h with hkind | hkind
  · rw [beq_iff_eq.mp hkind]
    cases dialect <;> decide
  · rw [beq_iff_eq.mp hkind]
    cases dialect <;> decide

/-- A function that is declared is called by a single name. -/
theorem Tree.Formed.isNameText {dialect : Dialect} {kind : Kind} {label : Option Label}
    {children : List Tree} {name : Tree}
    (hformed : (Tree.node kind label children).Formed (Script.grammar dialect))
    (hkind : kind.declaresFunction = true)
    (hname : (Tree.node kind label children).part? .name = some name) :
    IsNameText name.text.toList := by
  rw [Tree.part?_node] at hname
  generalize hnode : Tree.node kind label children = node at hformed
  cases hformed with
  | unit =>
    cases hnode
    cases hname
  | comment =>
    cases hnode
    cases hname
  | guise guise =>
    cases hnode
    rw [guise.declaresFunction_kind] at hkind
    cases hkind
  | line _ _ hline hrow =>
    cases hnode
    have hfirst := namesFirst_of_declaresFunction dialect hkind _ hline
    obtain ⟨text, htext, hfind⟩ := hrow.find?_name (by rwa [List.reverse_reverse])
    rw [hfind] at hname
    cases hname
    simpa [Tree.text, Tree.textOfList] using htext

/-- The nodes of a script below its root are made of what they should be. -/
theorem Tree.IsProgram.formed {tree node : Tree} (h : tree.IsProgram grammar)
    (hnode : tree.Holds node) (hkind : node.isKind .program = false) : node.Formed grammar := by
  obtain ⟨frames, after, hframes, hafter, rfl⟩ := h
  cases hnode with
  | self => cases hkind
  | @within _ child _ hchild hinner =>
    rcases List.mem_append.mp (List.mem_reverse.mp hchild) with hchild | hchild
    · exact (hafter child hchild).allFormed node hinner
    · obtain ⟨frame, hframe, hpart⟩ := List.mem_flatMap.mp hchild
      rcases List.mem_append.mp hpart with hpart | hpart
      · exact (hframes frame hframe).derives.allFormed child hpart node hinner
      · exact ((hframes frame hframe).before child hpart).allFormed node hinner

/-- The parser that reads by the grammar gives trees in which no line ends within the name of a
function, as long as only what ends a name ends a line. -/
theorem parse_namesFunctions {ends : Char → Bool}
    (h : ∀ c, ends c = true → Lexeme.endsName c = true) :
    parse.Ensures (Tree.NamesFunctions ends) := by
  intro dialect code tree htree node hnode hkind name hname c hc
  cases node with
  | token | blank => cases hkind
  | node kind label children =>
    have hdeclares : kind.declaresFunction = true := hkind
    have hformed : (Tree.node kind label children).Formed (Script.grammar dialect) := by
      refine (isProgram_of_parse htree).formed hnode (beq_false_of_ne fun heq => ?_)
      cases heq
      cases hdeclares
    have hend := (hformed.isNameText hdeclares hname).endsName c hc
    exact Bool.eq_false_iff.mpr fun hends => Bool.eq_false_iff.mp hend (h c hends)

end Restack.Script
