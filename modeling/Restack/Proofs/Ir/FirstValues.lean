import Restack.Proofs.Conversion.Nodes
import Restack.Proofs.Outline.LiteralTypes
import Restack.Proofs.Script.ComponentMarkup
import Restack.Proofs.Script.DeclaredState
import Restack.Proofs.Script.Literals
import Restack.Proofs.Text.Stretches

/-!
# The types of variables fit their first values

The text of a first value is read twice: once for the type of the variable and once for the value.
Both readings agree on all texts that a summary keeps of a first value, whatever the script. A
string keeps its content, a truth value and a number are what they are written as, and anything else
is left open. Each component keeps the variables that its function declares.
-/

namespace Restack

open Text (betweenQuotes? betweenQuotes?_quoted)
open Script (Kind Parser Tree wordOfTruth)
open Script.Component (arrowOf bareElement binding constant returning)
open Script.Lexeme (isNumeral)

namespace Outline

variable {s : List Char}

/-- Nothing is taken off a text between apostrophes. -/
theorem literalText_quoted (content : List Char) :
    literalText ('\x27' :: (content ++ ['\x27'])) = '\x27' :: (content ++ ['\x27']) := by
  have hlast : ('\x27' :: (content ++ ['\x27'])).getLast? = some '\x27' :=
    List.getLast?_concat (l := '\x27' :: content)
  refine literalText_eq ⟨?_, ?_⟩ ?_
  · rintro _ ⟨⟩
    rfl
  · rw [hlast]
    rintro _ ⟨⟩
    rfl
  · rw [hlast]
    rintro _ ⟨⟩
    rfl

/-- A text between apostrophes is read as its content, whatever that is. -/
theorem readLiteral_quoted (content : List Char) :
    readLiteral ('\x27' :: (content ++ ['\x27'])) = .str (String.ofList content) := by
  rw [readLiteral, literalText_quoted, betweenQuotes?_quoted (by decide)]

/-- The word of a truth value is read as it. -/
theorem readLiteral_wordOfTruth (b : Bool) : readLiteral (wordOfTruth b).toList = .bool b := by
  cases b <;> rfl

end Outline

section Numerals

open Script.Lexeme

variable {text : List Char}

/-- A number is read as it is written, without a mark behind it. -/
theorem Outline.literalText_eq_of_isNumeral (h : isNumeral text = true) :
    literalText text = text := by
  refine literalText_eq (isTrimmed_of_isNumeral h) fun c hc => ?_
  have hchar := isNumberChar_of_isNumeral h c (List.mem_of_mem_getLast? hc)
  refine Bool.eq_false_iff.mpr fun heq => ?_
  rcases Bool.or_eq_true_iff.mp heq with heq | heq <;> rw [beq_iff_eq.mp heq] at hchar <;>
    cases hchar

/-- A number does not begin like any other literal. -/
theorem exists_cons_ne_of_isNumeral (h : isNumeral text = true) :
    ∃ c rest, text = c :: rest ∧ ∀ d, isNumberStart d = false → c ≠ d := by
  obtain ⟨c, rest, rfl, hstart⟩ := exists_cons_of_isNumeral h
  refine ⟨c, rest, rfl, ?_⟩
  rintro d hd rfl
  rw [hstart] at hd
  cases hd

/-- A number is read as such or not at all. -/
theorem Outline.readLiteral_of_isNumeral (h : isNumeral text = true) :
    readLiteral text = (readNumeral? text).getD .null := by
  have htext := literalText_eq_of_isNumeral h
  obtain ⟨c, rest, rfl, hhead⟩ := exists_cons_ne_of_isNumeral h
  have hquotes : betweenQuotes? (c :: rest) = none := by
    simp [betweenQuotes?, hhead '\x27' rfl, hhead '"' rfl, hhead '\x60' rfl]
  rw [readLiteral, htext, hquotes]
  simp [hhead 't' rfl, hhead 'f' rfl, hhead '[' rfl, hhead '\x7b' rfl]

/-- The type of a number is told by whether it can be read as a float. -/
theorem Ir.typeOfLiteral_of_isNumeral (h : isNumeral text = true) :
    typeOfLiteral text = if (Number.readFloat? text).isSome then "number" else "any" := by
  obtain ⟨c, rest, rfl, hhead⟩ := exists_cons_ne_of_isNumeral h
  unfold typeOfLiteral
  simp [hhead '\x27' rfl, hhead 't' rfl, hhead 'f' rfl, hhead '[' rfl, hhead '\x7b' rfl]

end Numerals

namespace Ir

/-- What stands between apostrophes is of the type of strings. -/
theorem typeOfLiteral_quoted (content : List Char) :
    typeOfLiteral ('\x27' :: (content ++ ['\x27'])) = "string" := by
  have hlast : ('\x27' :: (content ++ ['\x27'])).getLast? = some '\x27' :=
    List.getLast?_concat (l := '\x27' :: content)
  simp [typeOfLiteral, hlast]

/-- The word of a truth value is of their type. -/
theorem typeOfLiteral_wordOfTruth (b : Bool) :
    typeOfLiteral (wordOfTruth b).toList = "boolean" := by
  cases b <;> rfl

namespace StateVariable

/-- The type of a variable is told by its first value, and the value by the type. -/
structure Agrees (kept : StateVariable) : Prop where
  string : kept.type = "string" ↔ ∃ s, kept.initial = .str s
  boolean : kept.type = "boolean" ↔ ∃ b, kept.initial = .bool b
  number : kept.type = "number" ↔ (∃ n, kept.initial = .int n) ∨ ∃ x, kept.initial = .float x
  any : kept.type = "any" ↔ kept.initial = .null

/-- What a variable is kept as, told by the first argument of the call that declares it. -/
inductive KeptAs (kept : StateVariable) : Option Tree → Prop
  /-- A string is kept with all that stands between its quotes. -/
  | string {value : Tree} {content : String} (hkind : value.kind? = some .string)
    (htype : kept.type = "string") (hinitial : kept.initial = .str content)
    (hcontent : ∀ mark ∈ ['\x27', '"', '\x60'], ∀ inner,
      value.text.toList = mark :: (inner ++ [mark]) → content = String.ofList inner) :
    KeptAs kept (some value)
  | truth {value : Tree} {b : Bool} (hkind : value.kind? = some (Kind.ofTruth b))
    (htype : kept.type = "boolean") (hinitial : kept.initial = .bool b) : KeptAs kept (some value)
  /-- A number is whole if it can be read as such. -/
  | whole {value : Tree} {n : Int} (hkind : value.kind? = some .number)
    (hspelled : isNumeral value.text.toList = true)
    (hfloat : (Number.readFloat? value.text.toList).isSome)
    (hread : Number.readInt? value.text.toList = some n) (htype : kept.type = "number")
    (hinitial : kept.initial = .int n) : KeptAs kept (some value)
  | fraction {value : Tree} {x : Float} (hkind : value.kind? = some .number)
    (hspelled : isNumeral value.text.toList = true)
    (hint : Number.readInt? value.text.toList = none)
    (hread : Number.readFloat? value.text.toList = some x) (htype : kept.type = "number")
    (hinitial : kept.initial = .float x) : KeptAs kept (some value)
  /-- A number that can be read as no float is left open. -/
  | unread {value : Tree} (hkind : value.kind? = some .number)
    (hfloat : Number.readFloat? value.text.toList = none) (htype : kept.type = "any")
    (hinitial : kept.initial = .null) : KeptAs kept (some value)
  /-- All else is left open, and so is the value where there is no argument. -/
  | other {argument : Option Tree}
    (hkind : ∀ value ∈ argument, ∀ kind ∈ [Kind.string, .number, .trueWord, .falseWord],
      value.kind? ≠ some kind) (htype : kept.type = "any") (hinitial : kept.initial = .null) :
    KeptAs kept argument

/-- Whatever the first argument is, the type of the variable and its first value agree. -/
theorem KeptAs.agrees {kept : StateVariable} {argument : Option Tree} (h : kept.KeptAs argument) :
    kept.Agrees := by
  cases h <;> constructor <;> simp [*]

end StateVariable

section Literals

variable {value : Tree} (name : String)

/-- A string is kept with all that stands between its quotes. -/
theorem keptAs_string (hkind : value.kind? = some .string) :
    (StateVariable.ofText name
      ("'" ++ String.ofList (Script.Lexeme.unquoted value.text.toList) ++ "'")).KeptAs
        (some value) := by
  have htext : ("'" ++ String.ofList (Script.Lexeme.unquoted value.text.toList) ++ "'").toList =
      '\x27' :: (Script.Lexeme.unquoted value.text.toList ++ ['\x27']) := by simp
  unfold StateVariable.ofText
  rw [htext, typeOfLiteral_quoted, Outline.readLiteral_quoted]
  refine .string hkind rfl rfl fun mark hmark inner hvalue => ?_
  rw [Script.Lexeme.unquoted, hvalue, betweenQuotes?_quoted hmark]
  rfl

/-- A number is kept as the float or the whole number that its text is read as, if it is read as
one. -/
theorem keptAs_number (hkind : value.kind? = some .number)
    (hspelled : isNumeral value.text.toList = true) :
    (StateVariable.ofText name value.text).KeptAs (some value) := by
  unfold StateVariable.ofText
  rw [typeOfLiteral_of_isNumeral hspelled, Outline.readLiteral_of_isNumeral hspelled]
  have hnumeral := Outline.isSome_readNumeral? value.text.toList
  cases hfloat : Number.readFloat? value.text.toList with
  | none =>
    rw [hfloat] at hnumeral
    rw [Option.not_isSome_iff_eq_none.mp (Bool.eq_false_iff.mp hnumeral)]
    exact .unread hkind hfloat rfl rfl
  | some x =>
    cases hint : Number.readInt? value.text.toList with
    | some n =>
      refine .whole hkind hspelled (by rw [hfloat]; rfl) hint rfl ?_
      simp only [Outline.readNumeral?, hint, Option.getD_some]
    | none =>
      refine .fraction hkind hspelled hint hfloat rfl ?_
      simp only [Outline.readNumeral?, hint, hfloat, Option.map_some, Option.getD_some]

/-- The word of a truth value is kept as it. -/
theorem keptAs_truth {b : Bool} (hkind : value.kind? = some (Kind.ofTruth b))
    (hword : value.text = wordOfTruth b) :
    (StateVariable.ofText name value.text).KeptAs (some value) := by
  unfold StateVariable.ofText
  rw [hword, typeOfLiteral_wordOfTruth, Outline.readLiteral_wordOfTruth]
  exact .truth hkind rfl rfl

end Literals

/-- The text of a first value gives a variable of the type and the value that it is written as. -/
theorem keptAs_literalText {tree : Tree} (hnumbers : tree.SpellsNumbers)
    (htruths : tree.SpellsTruths) (name : String) {argument : Option Tree}
    (hargument : ∀ value ∈ argument, tree.Holds value) :
    (StateVariable.ofText name (Script.Component.literalText argument)).KeptAs argument := by
  cases argument with
  | none => exact .other nofun rfl rfl
  | some value =>
    have hvalue := hargument value rfl
    unfold Script.Component.literalText
    dsimp only
    split
    · rename_i hkind
      exact keptAs_string name hkind
    · rename_i hkind
      exact keptAs_number name hkind (hnumbers value hvalue hkind)
    · rename_i hkind
      have htrue : value.kind? = some (Kind.ofTruth true) := hkind
      exact keptAs_truth name htrue (htruths value hvalue true htrue)
    · rename_i hkind
      have hfalse : value.kind? = some (Kind.ofTruth false) := hkind
      exact keptAs_truth name hfalse (htruths value hvalue false hfalse)
    · rename_i hstring hnumber htrue hfalse
      refine .other ?_ rfl rfl
      rintro _ ⟨⟩
      simpa using ⟨hstring, hnumber, htrue, hfalse⟩

/-- The variables that the calls in a function declare: one for each name under which one of them
declares state, kept as the first argument of the last of them tells. -/
structure IsStateOf (function : Tree) (state : List StateVariable) : Prop where
  once : (state.map (·.name)).Nodup
  complete : ∀ call parent name, (call, parent) ∈ function.walk → call.DeclaresState parent name →
    ∃ kept ∈ state, kept.name = name
  sound : ∀ kept ∈ state, ∃ call parent, function.IsLastToDeclare call parent kept.name ∧
    kept.KeptAs call.firstArgument?

/-- Each function that a script binds to the name of a component has a node, which keeps the
variables that the calls in the function declare. -/
def CoverComponents (nodes : List Node) (tree : Tree) : Prop :=
  ∀ declarator name function, tree.Holds declarator → declarator.DeclaresComponent name function →
    ∃ node ∈ nodes, node.name = .str name ∧ ∃ state, node.Keeps state ∧ IsStateOf function state

/-- A component keeps the variables that the calls in its function declare. -/
theorem isStateOf_keptBy {tree declarator function : Tree} {name : String}
    (hnumbers : tree.SpellsNumbers) (htruths : tree.SpellsTruths) (hholds : tree.Holds declarator)
    (hdeclares : declarator.DeclaresComponent name function) :
    IsStateOf function (Lowering.keptBy (Script.Component.ofFunction name function)) where
  once := by
    have hnames := Value.nodup_keys_ofEntries
      (function.walk.filterMap fun entry => Script.Component.stateEntry? entry.1 entry.2)
    rw [Lowering.keptBy, List.map_map]
    exact hnames
  complete := by
    intro call parent name hcall hstate
    obtain ⟨last, above, hlast⟩ := Script.Component.exists_isLastToDeclare hcall hstate
    have hkept := Script.Component.mem_stateOf_iff.mpr ⟨last, above, hlast, rfl⟩
    exact ⟨_, List.mem_map_of_mem hkept, rfl⟩
  sound := by
    intro kept hkept
    obtain ⟨⟨name, text⟩, hentry, rfl⟩ := List.mem_map.mp hkept
    obtain ⟨call, parent, hlast, rfl⟩ := Script.Component.mem_stateOf_iff.mp hentry
    refine ⟨call, parent, hlast, keptAs_literalText hnumbers htruths name fun value hvalue => ?_⟩
    have hfunction := hholds.trans (Tree.Holds.of_part? hdeclares.atValue)
    exact hfunction.trans (hlast.holds.trans (Tree.holds_of_firstArgument? hvalue))

/-- A call in a script declares the variable, which is kept as the first argument tells. -/
def StateVariable.DeclaredIn (parser : Parser) (path code : String) (kept : StateVariable) : Prop :=
  ∃ tree call parent, parser (Script.Dialect.ofPath path) code = .ok tree ∧ tree.Holds call ∧
    call.DeclaresState parent kept.name ∧ kept.KeptAs call.firstArgument?

namespace Lowering

/-- The nodes of a script are sound. Those of components are of functions that the script binds to
the names of components, and each such function has one. -/
theorem nodes_ofTree {tree : Tree} (hnumbers : tree.SpellsNumbers) (htruths : tree.SpellsTruths)
    (file framework : String) :
    ∃ nodes, Lowering.nodes (Script.Summary.ofTree tree).toValue file framework = .ok nodes ∧
      (∀ node ∈ nodes, node.Sound ∧ ∀ state, node.Keeps state → ∃ declarator name function,
        tree.Holds declarator ∧ declarator.DeclaresComponent name function ∧
          IsStateOf function state) ∧
      CoverComponents nodes tree := by
  obtain ⟨nodes, hnodes, hfrom, hall⟩ := nodes_script_cases file framework tree
  refine ⟨nodes, hnodes, fun node hnode => ?_, fun declarator name function hholds hdeclares => ?_⟩
  · rcases hfrom node hnode with ⟨component, hcomponent, hof⟩ | ⟨_, routine, -, rfl⟩
    · obtain ⟨declarator, name, function, hholds, hdeclares, rfl⟩ :=
        Script.Summary.mem_components_iff.mp hcomponent
      refine ⟨hof.sound, fun state hkeeps => ⟨declarator, name, function, hholds, hdeclares, ?_⟩⟩
      rw [hkeeps.eq hof.keeps]
      exact isStateOf_keptBy hnumbers htruths hholds hdeclares
    · refine ⟨routineNode_sound file framework _ routine, ?_⟩
      rintro state ⟨props, hooks, children, hbody⟩
      cases hbody
  · obtain ⟨node, hnode, hof⟩ := hall _ (Script.Summary.mem_components_iff.mpr
      ⟨declarator, name, function, hholds, hdeclares, rfl⟩)
    exact ⟨node, hnode, hof.name, _, hof.keeps,
      isStateOf_keptBy hnumbers htruths hholds hdeclares⟩

section Reports

variable {parser : Parser} (hnumbers : parser.Ensures Tree.SpellsNumbers)
  (htruths : parser.Ensures Tree.SpellsTruths)
include hnumbers htruths

/-- A script has nodes for which code can be written, and calls in it declare their variables. Its
components have nodes that keep the variables of theirs. -/
theorem nodes_report (path code file framework : String) :
    ∃ nodes, Lowering.nodes (Script.report parser path code) file framework = .ok nodes ∧
      (∀ node ∈ nodes, node.Sound ∧
        ∀ state, node.Keeps state → ∀ kept ∈ state, kept.DeclaredIn parser path code) ∧
      ∀ tree, parser (Script.Dialect.ofPath path) code = .ok tree → CoverComponents nodes tree := by
  rcases Conversion.report_script_cases parser path code with
    ⟨tree, hparse, hreport⟩ | ⟨faulty, hrefused, hreport⟩
  · obtain ⟨nodes, hnodes, hfrom, hall⟩ :=
      nodes_ofTree (hnumbers _ _ _ hparse) (htruths _ _ _ hparse) file framework
    rw [hreport]
    refine ⟨nodes, hnodes, fun node hnode => ⟨(hfrom node hnode).1, ?_⟩, fun found hfound => ?_⟩
    · intro state hkeeps kept hkept
      obtain ⟨declarator, name, function, hholds, hdeclares, hstate⟩ :=
        (hfrom node hnode).2 state hkeeps
      obtain ⟨call, parent, hlast, hkeptAs⟩ := hstate.sound kept hkept
      have hfunction := hholds.trans (Tree.Holds.of_part? hdeclares.atValue)
      exact ⟨tree, call, parent, hparse, hfunction.trans hlast.holds, hlast.declares, hkeptAs⟩
    · obtain rfl := Except.ok.inj (hparse.symm.trans hfound)
      exact hall
  · rw [hreport]
    refine ⟨[], nodes_failure file framework path _, nofun, fun tree hparse => ?_⟩
    rw [hrefused] at hparse
    cases hparse

/-- **The types of variables fit their first values.** Each call of a script that declares state
gives a variable, which is what the first argument of the call stands for, strings with all that is
in them. The variables of the components of a script are declared so, and the type of each tells the
kind of its first value, and the other way round. Each function that the script binds to the name of
a component has a node, which keeps one variable for each name under which calls in the function
declare state, as the last of them tells. What is relied on is how the parser spells numbers and
truth values. -/
theorem state_fits_first_values (path code file framework : String) :
    (∀ tree, parser (Script.Dialect.ofPath path) code = .ok tree →
      ∀ call parent name, tree.Holds call → call.DeclaresState parent name →
        ∃ text, Script.Component.stateEntry? call parent = some (name, text) ∧
          (StateVariable.ofText name text).KeptAs call.firstArgument?) ∧
      ∃ nodes, Lowering.nodes (Script.report parser path code) file framework = .ok nodes ∧
        (∀ node ∈ nodes, ∀ state, node.Keeps state → ∀ kept ∈ state,
          kept.Agrees ∧ kept.DeclaredIn parser path code) ∧
        ∀ tree, parser (Script.Dialect.ofPath path) code = .ok tree →
          CoverComponents nodes tree := by
  constructor
  · intro tree hparse call parent name hcall hdeclares
    refine ⟨_, Script.Component.stateEntry?_eq_some_iff.mpr ⟨hdeclares, rfl⟩, ?_⟩
    exact keptAs_literalText (hnumbers _ _ _ hparse) (htruths _ _ _ hparse) name fun value hvalue =>
      hcall.trans (Tree.holds_of_firstArgument? hvalue)
  · obtain ⟨nodes, hnodes, hfrom, hall⟩ := nodes_report hnumbers htruths path code file framework
    refine ⟨nodes, hnodes, fun node hnode state hstate kept hkept => ?_, hall⟩
    have hdeclared := (hfrom node hnode).2 state hstate kept hkept
    have ⟨_, _, _, _, _, _, hkeptAs⟩ := hdeclared
    exact ⟨hkeptAs.agrees, hdeclared⟩

end Reports

/-- The tree of a constant that is bound to what `useState` gives for a first value. -/
def stateConstant (name setter : String) (value : Tree) : Tree :=
  constant <| .node .variableDeclarator none
    [.node .arrayPattern (some .name)
        [.token "[", .node .identifier none [.token name], .token ",", .blank " ",
          .node .identifier none [.token setter], .token "]"],
      .blank " ", .token "=", .blank " ",
      .node .callExpression (some .value)
        [.node .identifier (some .function) [.token "useState"],
          .node .arguments (some .arguments) [.token "(", value, .token ")"]]]

/-- What the function of a component with four variables is made of. -/
def cartStatements : List Tree :=
  [stateConstant "count" "setCount" (.node .number none [.token "2"]),
    stateConstant "note" "setNote" (.node .string none
      [.token "\x22", .node .stringFragment none [.token "two's"], .token "\x22"]),
    stateConstant "full" "setFull" (.node .trueWord none [.token "true"]),
    stateConstant "items" "setItems" (.node .array none [.token "[", .token "]"]),
    returning (bareElement "ul")]

/-- The tree of the component. -/
def cartTree : Tree := .node .program none [constant (binding "Cart" cartStatements)]

/-- The script of the component. -/
def cart : String :=
  "const Cart = () => \x7b const [count, setCount] = useState(2); " ++
    "const [note, setNote] = useState(\x22two's\x22); const [full, setFull] = useState(true); " ++
    "const [items, setItems] = useState([]); return <ul/>; \x7d;"

/-- The parser that knows the component spells numbers as such. -/
theorem cart_spellsNumbers : (Parser.only cart cartTree).Ensures Tree.SpellsNumbers :=
  Parser.ensures_only (by decide +kernel)

/-- The parser that knows the component spells truth values as their words. -/
theorem cart_spellsTruths : (Parser.only cart cartTree).Ensures Tree.SpellsTruths :=
  Parser.ensures_only (by decide +kernel)

/-- The parser that reads by the grammar spells numbers and truth values as it should, and so does
one that knows a component with four variables, one of each type. -/
theorem state_fits_first_values_cart :
    Script.parse.Ensures Tree.SpellsNumbers ∧ Script.parse.Ensures Tree.SpellsTruths ∧
    cartTree.text = cart ∧ ∃ node state,
      Lowering.nodes (Script.report (.only cart cartTree) "Cart.jsx" cart) "Cart.jsx" "react" =
        .ok [node] ∧
      node.Keeps state ∧ IsStateOf (arrowOf cartStatements) state ∧
      state.map (fun kept => (kept.name, kept.type, kept.initial)) =
        [("count", "number", .int 2), ("note", "string", .str "two's"),
          ("full", "boolean", .bool true), ("items", "any", .null)] ∧
      ∀ kept ∈ state, kept.Agrees := by
  obtain ⟨-, nodes, hnodes, hagree, hall⟩ :=
    state_fits_first_values cart_spellsNumbers cart_spellsTruths "Cart.jsx" cart "Cart.jsx" "react"
  obtain ⟨own, state, hown, hkeeps, hvalues⟩ : ∃ own state,
      Lowering.nodes (Script.Summary.ofTree cartTree).toValue "Cart.jsx" "react" = .ok [own] ∧
      own.Keeps state ∧ state.map (fun kept => (kept.name, kept.type, kept.initial)) =
        [("count", "number", .int 2), ("note", "string", .str "two's"),
          ("full", "boolean", .bool true), ("items", "any", .null)] :=
    ⟨_, _, rfl, ⟨_, _, _, rfl⟩, rfl⟩
  rw [Parser.report_only] at hnodes ⊢
  obtain rfl := Except.ok.inj (hown.symm.trans hnodes)
  have hbinds : (binding "Cart" cartStatements).DeclaresComponent "Cart"
      (arrowOf cartStatements) :=
    { isDeclarator := rfl, named := ⟨_, rfl, rfl, by decide +kernel⟩, atValue := rfl,
      isArrow := rfl, capital := by decide }
  have hholds : cartTree.Holds (binding "Cart" cartStatements) :=
    .within List.mem_cons_self (.of_mem_nodes List.mem_cons_self)
  obtain ⟨node, hnode, -, other, hother, hstate⟩ := hall cartTree (if_pos rfl) _ _ _ hholds hbinds
  obtain rfl := List.mem_singleton.mp hnode
  obtain rfl := hkeeps.eq hother
  refine ⟨Script.parse_spellsNumbers, Script.parse_spellsTruths, by decide +kernel, node, state,
    hown, hkeeps, hstate, hvalues, fun kept hkept => ?_⟩
  exact (hagree node hnode state hkeeps kept hkept).1

end Lowering

end Ir

end Restack
