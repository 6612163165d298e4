import Restack.Proofs.Ir.FirstValues
import Restack.Proofs.Number.Magnitudes
import Restack.Proofs.Script.Numerals
import Restack.Proofs.Target.Literals

/-!
# Declarations of state variables

A variable is declared with its type and with a first value. The value is a literal of the type
with three exceptions: the only type that Dart has for numbers is that of whole numbers, which
fractions do not fit; a number beyond every float is written as a word; and a backslash in a text
may take the quote that ends the text, or the backslash in front of a quote.
-/

namespace Restack

open Ir (Node StateVariable)
open Ir.Lowering (cart cartTree cart_spellsNumbers cart_spellsTruths)

namespace Target

section Texts

variable {quote : Char}

/-- Whether no backslash of a text takes a quote or the end of the text. -/
def endsItself (quote : Char) : List Char → Bool
  | [] => true
  | ['\\'] => false
  | '\\' :: c :: rest => c != quote && endsItself quote rest
  | _ :: rest => endsItself quote rest

/-- Only backslashes matter to whether a text takes its closing quote. -/
theorem endsItself_cons {c : Char} (hc : c ≠ '\\') (rest : List Char) :
    endsItself quote (c :: rest) = endsItself quote rest := by
  rw [endsItself]
  · exact fun h => absurd h hc
  · exact fun _ _ h => absurd h hc

/-- A text whose quotes are escaped is followed by the quote that ends its literal exactly if no
backslash in it takes what was not meant for it. -/
theorem isSome_restOfLiteral?_escaped (hquote : quote ≠ '\\') (s : List Char) :
    (restOfLiteral? quote (escaped quote s ++ [quote])).isSome = endsItself quote s := by
  have hbackslash : ('\\' == quote) = false := beq_false_of_ne hquote.symm
  have hend : restOfLiteral? quote [quote] = some [] := by
    rw [restOfLiteral?_cons hquote, if_pos rfl]
    rfl
  induction s using endsItself.induct with
  | case1 =>
    rw [escaped, List.flatMap_nil, List.nil_append, hend]
    rfl
  | case2 =>
    rw [escaped_cons, hbackslash]
    rfl
  | case3 c rest ih =>
    rw [endsItself, escaped_cons, hbackslash, escaped_cons]
    by_cases hc : c = quote
    · -- The quote has a backslash of its own, which the one before it takes.
      subst hc
      simp only [beq_self_eq_true, bne_self_eq_false, Bool.false_and, List.cons_append,
        Bool.false_eq_true, if_false, if_true, List.nil_append, restOfLiteral?]
      rw [restOfLiteral?_cons hquote, if_pos rfl, if_neg (by simp)]
      rfl
    · simp only [beq_false_of_ne hc, bne_iff_ne.mpr hc, Bool.true_and, List.cons_append,
        Bool.false_eq_true, if_false, List.nil_append, restOfLiteral?, Option.isSome_map, ih]
  | case4 c rest hlast hmore ih =>
    have hplain : c ≠ '\\' := by
      rintro rfl
      cases rest with
      | nil => exact hlast rfl rfl
      | cons d rest => exact hmore d rest rfl rfl
    rw [endsItself_cons hplain, escaped_cons, ← ih]
    by_cases hc : c = quote
    · simp only [hc, beq_self_eq_true, if_true, List.cons_append, List.nil_append, restOfLiteral?,
        Option.isSome_map]
    · rw [beq_false_of_ne hc, if_neg Bool.false_ne_true, List.singleton_append, List.cons_append,
        restOfLiteral?_cons hplain, if_neg hc, Option.isSome_map]

/-- What a dialect writes for a text is a literal exactly if the text ends itself. -/
theorem Dialect.isSome_literalText?_writeText (dialect : Dialect) (hquote : dialect.quote ≠ '\\')
    (s : String) :
    (literalText? dialect.quote (String.ofList (dialect.writeText s.toList))).isSome =
      endsItself dialect.quote s.toList := by
  rw [Dialect.writeText_eq, literalText?, String.toList_ofList]
  dsimp only
  rw [if_pos rfl, Option.isSome_map]
  exact isSome_restOfLiteral?_escaped hquote s.toList

end Texts

/-- Whether a text is a run of digits behind a sign, or behind none. -/
def isWholeLiteral (s : List Char) : Bool :=
  let digits := (Number.readSign s).2
  !digits.isEmpty && digits.all Text.isAsciiDigit

/-- Whether some code is a literal of a Dart type that variables are declared with. -/
def isDartLiteral (type code : String) : Bool :=
  match type with
  | "int" => isWholeLiteral code.toList
  | "String" => (literalText? '\x27' code).isSome
  | "bool" => code == "true" || code == "false"
  | "dynamic" => code == "null"
  | _ => false

/-- Whether some code is a literal of a TypeScript type that variables are declared with. -/
def isTypeScriptLiteral (type code : String) : Bool :=
  match type with
  | "number" => Script.Lexeme.number code.toList == some (code.toList, [])
  | "string" => (literalText? '\x27' code).isSome
  | "boolean" => code == "true" || code == "false"
  | "any" => code == "undefined"
  | _ => false

/-- What a dialect calls a type of variables. -/
def Dialect.nameOf (dialect : Dialect) (type : String) : String :=
  (dialect.types.lookup type).getD dialect.anyType

/-- What a dialect writes for the first value of a variable. -/
def Dialect.initialiser (dialect : Dialect) (kept : StateVariable) : String :=
  dialect.writeValue kept.initial (dialect.nameOf kept.type)

/-- First values that a dialect has a literal for: floats that fit, texts in which no backslash
takes more than was meant for it, and everything else. -/
def Dialect.Fits (dialect : Dialect) (floatFits : Float → Prop) : Value → Prop
  | .float x => floatFits x
  | .str s => endsItself dialect.quote s.toList = true
  | _ => True

/-- In Dart no float fits. -/
def FitsDart : Value → Prop :=
  dart.Fits fun _ => False

/-- In TypeScript the finite floats fit. -/
def FitsTypeScript : Value → Prop :=
  typeScript.Fits Script.IsFinite

end Target

namespace Script

/-- What may begin a number is no sign. -/
theorem readSign_of_isNumberStart {c : Char} (h : Lexeme.isNumberStart c = true)
    (rest : List Char) : Number.readSign (c :: rest) = (false, c :: rest) := by
  unfold Number.readSign
  split
  · rename_i heq
    cases heq
    cases h
  · rename_i heq
    cases heq
    cases h
  · rfl

/-- A number of a script has no sign. -/
theorem readSign_unpadded_of_isNumeral {text : List Char} (h : Lexeme.isNumeral text = true) :
    (Number.readSign (Number.unpadded text)).1 = false := by
  have htrimmed := Lexeme.isTrimmed_of_isNumeral h
  obtain ⟨c, rest, rfl, hstart⟩ := Lexeme.exists_cons_of_isNumeral h
  rw [Number.unpadded_eq htrimmed, readSign_of_isNumberStart hstart]

end Script

namespace Target

/-- A whole number that is not negative is written with its digits alone. -/
theorem toList_toString_of_nonneg {n : Int} (h : 0 ≤ n) :
    (toString n).toList = Nat.toDigits 10 n.toNat := by
  change n.repr.toList = _
  rw [Int.repr_eq_if, if_pos h, Nat.repr_eq_ofList_toDigits, String.toList_ofList]

/-- A number that is written with its digits is a literal for a whole number. -/
theorem isWholeLiteral_toDigits (n : Nat) : isWholeLiteral (Nat.toDigits 10 n) = true := by
  have hdigits := Script.isWholePart_toDigits n
  generalize Nat.toDigits 10 n = digits at hdigits
  cases digits with
  | nil => exact absurd rfl hdigits.ne_nil
  | cons c rest =>
    have hstart : Script.Lexeme.isNumberStart c = true := by
      rw [Script.Lexeme.isNumberStart, hdigits.digits c List.mem_cons_self]
      rfl
    unfold isWholeLiteral
    rw [Script.readSign_of_isNumberStart hstart]
    exact List.all_eq_true.mpr hdigits.digits

/-- What is no sign is left when a sign is read. -/
theorem mem_readSign {s : List Char} {c : Char} (h : c ∈ s) (hminus : c ≠ '-') (hplus : c ≠ '+') :
    c ∈ (Number.readSign s).2 := by
  unfold Number.readSign
  split
  · exact (List.mem_cons.mp h).resolve_left hminus
  · exact (List.mem_cons.mp h).resolve_left hplus
  · exact h

/-- A float is never written as a whole number. -/
theorem isWholeLiteral_floatText (x : Float) :
    isWholeLiteral (Number.floatText x).toList = false := by
  obtain ⟨c, hc, hmem⟩ := Script.exists_mem_floatText x
  have hsign : c ∈ (Number.readSign (Number.floatText x).toList).2 := by
    refine mem_readSign hmem ?_ ?_ <;> rintro rfl <;> simp at hc
  have hdigit : ¬Text.isAsciiDigit c = true := by
    simp only [List.mem_cons, List.not_mem_nil, or_false] at hc
    rcases hc with rfl | rfl | rfl <;> decide
  refine Bool.eq_false_iff.mpr fun h => ?_
  exact hdigit (List.all_eq_true.mp (Bool.and_eq_true_iff.mp h).2 c hsign)

/-- What makes a reading of literals the one of a dialect: each type has the literals that the
dialect writes for its values, and floats without a sign are read as numbers where they fit. -/
structure Dialect.Reads (dialect : Dialect) (isLiteral : String → String → Bool)
    (floatFits : Float → Prop) : Prop where
  quote : dialect.quote ≠ '\\'
  string (code : String) : isLiteral (dialect.nameOf "string") code =
    (literalText? dialect.quote code).isSome
  truth (b : Bool) : isLiteral (dialect.nameOf "boolean") (Script.wordOfTruth b) = true
  absent : isLiteral (dialect.nameOf "any") dialect.absent = true
  whole {n : Int} (hn : 0 ≤ n) : isLiteral (dialect.nameOf "number") (toString n) = true
  float {x : Float} (hx : (Number.floatParts x).1 = false) :
    isLiteral (dialect.nameOf "number") (Number.floatText x) = true ↔ floatFits x

/-- The first value of a variable is a literal of its type exactly if it fits. -/
theorem Dialect.Reads.initialiser_iff {dialect : Dialect} {isLiteral : String → String → Bool}
    {floatFits : Float → Prop} (h : dialect.Reads isLiteral floatFits) {kept : StateVariable}
    {argument : Option Script.Tree} (hkept : kept.KeptAs argument) :
    isLiteral (dialect.nameOf kept.type) (dialect.initialiser kept) = true ↔
      dialect.Fits floatFits kept.initial := by
  unfold initialiser
  cases hkept with
  | @string _ content _ htype hinitial =>
    have htext : dialect.writeValue (.str content) (dialect.nameOf "string") =
        String.ofList (dialect.writeText content.toList) := if_pos BEq.rfl
    rw [htype, hinitial, htext, h.string, dialect.isSome_literalText?_writeText h.quote]
    rfl
  | @truth _ b _ htype hinitial =>
    rw [htype, hinitial]
    exact iff_of_true (h.truth b) trivial
  | @whole _ n _ hspelled _ hread htype hinitial =>
    rw [htype, hinitial]
    have hsign := Script.readSign_unpadded_of_isNumeral hspelled
    exact iff_of_true (h.whole (Number.nonneg_of_readInt? hread hsign)) trivial
  | @fraction _ x _ hspelled _ hread htype hinitial =>
    rw [htype, hinitial]
    have hsign := Script.readSign_unpadded_of_isNumeral hspelled
    exact h.float (Number.hasNoSign_of_readFloat? hread hsign).floatParts
  | unread _ _ htype hinitial | other _ htype hinitial =>
    rw [htype, hinitial]
    exact iff_of_true h.absent trivial

/-- Dart reads what is written for it, but for fractions. -/
theorem reads_isDartLiteral : dart.Reads isDartLiteral fun _ => False where
  quote := by decide
  string _ := rfl
  truth b := by cases b <;> rfl
  absent := rfl
  whole hn := by
    change isWholeLiteral (toString _).toList = true
    rw [toList_toString_of_nonneg hn]
    exact isWholeLiteral_toDigits _
  float {x} _ := by
    change isWholeLiteral (Number.floatText x).toList = true ↔ False
    rw [isWholeLiteral_floatText]
    exact iff_of_false Bool.false_ne_true id

/-- TypeScript reads what is written for it, but for infinity. -/
theorem reads_isTypeScriptLiteral : typeScript.Reads isTypeScriptLiteral Script.IsFinite where
  quote := by decide
  string _ := rfl
  truth b := by cases b <;> rfl
  absent := rfl
  whole {n} hn := by
    change (Script.Lexeme.number (toString n).toList == some ((toString n).toList, [])) = true
    rw [toList_toString_of_nonneg hn, beq_iff_eq]
    exact Script.Lexeme.number_eq (Script.isDecimal_toDigits _)
  float hx := beq_iff_eq.trans (Script.number_floatText_iff hx)

section Files

variable {node : Node} {state : List StateVariable} {options : Value} {file : File}

/-- The line with which a widget declares a variable. -/
def Flutter.stateLine (kept : StateVariable) : String :=
  "  " ++ dart.nameOf kept.type ++ " " ++ kept.name ++ " = " ++ dart.initialiser kept ++ ";\n"

/-- The line with which a function component declares a variable. -/
def React.stateLine (kept : StateVariable) : String :=
  "  const [" ++ kept.name ++ ", " ++ kept.setter ++ "] = useState<" ++
    typeScript.nameOf kept.type ++ ">(" ++ typeScript.initialiser kept ++ ");\n"

/-- Steps over the variables of a component are steps over the list of them. -/
theorem mapM_state {step : String × Value → Except Fault String} (line : StateVariable → String)
    (h : ∀ kept, step (kept.name, Node.stateValue kept) = .ok (line kept)) :
    (state.map fun kept => (kept.name, Node.stateValue kept)).mapM step = .ok (state.map line) := by
  rw [List.mapM_map]
  have hstep : (step ∘ fun kept => (kept.name, Node.stateValue kept)) =
      fun kept => .ok (line kept) := funext h
  rw [hstep]
  exact List.mapM_pure

namespace Flutter

/-- A widget that has variables declares them, one behind the other. -/
theorem isInfix_opening (hkeeps : node.Keeps state) {className code : String}
    (h : opening className node.toValue = .ok code) :
    (Text.joined "" (state.map stateLine)).toList <:+: code.toList := by
  obtain ⟨props, hooks, children, hbody⟩ := hkeeps
  cases state with
  | nil => exact List.nil_infix
  | cons first rest =>
    have hentries := Node.entriesOf_state hbody
    have htruthy : ∃ value, node.toValue.getTruthy? "state" = .ok (some value) := by
      obtain ⟨name, _, origin⟩ := node
      cases hbody
      exact ⟨_, rfl⟩
    obtain ⟨value, htruthy⟩ := htruthy
    obtain ⟨_, hvalue, h⟩ := exists_of_bind_eq_ok h
    rw [htruthy] at hvalue
    cases hvalue
    rw [Option.isSome_some, if_pos rfl] at h
    obtain ⟨fields, -, h⟩ := exists_of_bind_eq_ok h
    obtain ⟨entries, hfound, h⟩ := exists_of_bind_eq_ok h
    rw [hentries] at hfound
    cases hfound
    obtain ⟨lines, hlines, h⟩ := exists_of_bind_eq_ok h
    rw [mapM_state stateLine fun _ => rfl] at hlines
    cases hlines
    obtain rfl := Except.ok.inj h
    exact Text.isInfix_append_left _ (Text.isInfix_append_left _ (Text.isInfix_append_right _
      List.infix_rfl))

/-- The file of a component holds the declarations of its variables. -/
theorem isInfix_stateLines (hkeeps : node.Keeps state)
    (h : emit node.toValue options = .ok file) :
    (Text.joined "" (state.map stateLine)).toList <:+: file.content.toList := by
  have hcomponent := node.isComponent_toValue
  rw [hkeeps.isComponent] at hcomponent
  obtain ⟨name, text, -, -, hcontent⟩ := code_of_emit hcomponent h
  generalize file.content = content at hcontent ⊢
  obtain ⟨top, -, hcontent⟩ := exists_of_bind_eq_ok hcontent
  obtain ⟨code, hcode, hcontent⟩ := exists_of_bind_eq_ok hcontent
  obtain ⟨children, -, hcontent⟩ := exists_of_bind_eq_ok hcontent
  obtain ⟨tree, -, hcontent⟩ := exists_of_bind_eq_ok hcontent
  obtain ⟨entries, -, hcontent⟩ := exists_of_bind_eq_ok hcontent
  obtain ⟨updaters, -, hcontent⟩ := exists_of_bind_eq_ok hcontent
  obtain rfl := Except.ok.inj hcontent
  iterate 5 refine Text.isInfix_append_left _ ?_
  exact Text.isInfix_append_right _ (isInfix_opening hkeeps hcode)

end Flutter

/-- The file of a component holds the declarations of its variables. -/
theorem React.isInfix_stateLines (hkeeps : node.Keeps state)
    (h : emit node.toValue options = .ok file) :
    (Text.joined "" (state.map stateLine)).toList <:+: file.content.toList := by
  have hcomponent := node.isComponent_toValue
  rw [hkeeps.isComponent] at hcomponent
  obtain ⟨props, hooks, children, hbody⟩ := hkeeps
  have hstate := Node.entriesOf_state hbody
  obtain ⟨name, -, hcontent⟩ := code_of_emit hcomponent h
  generalize file.content = content at hcontent ⊢
  obtain ⟨top, -, hcontent⟩ := exists_of_bind_eq_ok hcontent
  obtain ⟨properties, -, hcontent⟩ := exists_of_bind_eq_ok hcontent
  obtain ⟨lines, -, hcontent⟩ := exists_of_bind_eq_ok hcontent
  obtain ⟨entries, hentries, hcontent⟩ := exists_of_bind_eq_ok hcontent
  rw [hstate] at hentries
  cases hentries
  obtain ⟨declarations, hdeclarations, hcontent⟩ := exists_of_bind_eq_ok hcontent
  rw [mapM_state stateLine fun _ => rfl] at hdeclarations
  cases hdeclarations
  obtain rfl := Except.ok.inj hcontent
  dsimp only
  iterate 2 refine Text.isInfix_append_left _ ?_
  exact Text.isInfix_append_right _ List.infix_rfl

end Files

/-- **A variable is declared with a literal of its type exactly if its first value fits the type.**
Each function that a script binds to the name of a component has a node, which keeps the variables
that calls in the function declare, and it has files that declare them one behind the other. A
number fits its Dart type unless it has been read as a float, and its TypeScript type unless it is
beyond every float; a text fits unless a backslash in it takes a quote or the end of the literal;
everything else fits. What is relied on is how the parser spells numbers and truth values. -/
theorem declarations_typed_iff {parser : Script.Parser}
    (hnumbers : parser.Ensures Script.Tree.SpellsNumbers)
    (htruths : parser.Ensures Script.Tree.SpellsTruths) (path code file framework : String)
    (options : List (String × Value)) :
    ∃ nodes, Ir.Lowering.nodes (Script.report parser path code) file framework = .ok nodes ∧
      (∀ tree, parser (Script.Dialect.ofPath path) code = .ok tree →
        Ir.CoverComponents nodes tree) ∧
      ∀ node ∈ nodes, ∀ state, node.Keeps state → ∃ widget component,
        Flutter.emit node.toValue (.object options) = .ok widget ∧
        React.emit node.toValue (.object options) = .ok component ∧
        (Text.joined "" (state.map Flutter.stateLine)).toList <:+: widget.content.toList ∧
        (Text.joined "" (state.map React.stateLine)).toList <:+: component.content.toList ∧
        ∀ kept ∈ state,
          (isDartLiteral (dart.nameOf kept.type) (dart.initialiser kept) = true ↔
            FitsDart kept.initial) ∧
          (isTypeScriptLiteral (typeScript.nameOf kept.type) (typeScript.initialiser kept) = true ↔
            FitsTypeScript kept.initial) := by
  obtain ⟨nodes, hnodes, hall, hcover⟩ :=
    Ir.Lowering.nodes_report hnumbers htruths path code file framework
  refine ⟨nodes, hnodes, hcover, fun node hnode state hkeeps => ?_⟩
  obtain ⟨hsound, hdeclared⟩ := hall node hnode
  have hemit := fun platform : Platform => platform.emit_component_isOk
    (node.field_name.trans (congrArg _ hsound.name)) hkeeps.isComponent hsound.body ⟨options, rfl⟩
  obtain ⟨widget, hwidget, -⟩ := hemit .flutter
  obtain ⟨component, hcomponent, -⟩ := hemit .react
  refine ⟨widget, component, hwidget, hcomponent, Flutter.isInfix_stateLines hkeeps hwidget,
    React.isInfix_stateLines hkeeps hcomponent, fun kept hkept => ?_⟩
  obtain ⟨_, _, _, _, _, _, hkeptAs⟩ := hdeclared state hkeeps kept hkept
  exact ⟨reads_isDartLiteral.initialiser_iff hkeptAs,
    reads_isTypeScriptLiteral.initialiser_iff hkeptAs⟩

/-- The lines that declare the four variables of a component in Dart. -/
def cartLines : String :=
  "  int count = 2;\n  String note = 'two\\'s';\n" ++
    "  bool full = true;\n  dynamic items = null;\n"

/-- Four variables of a component are declared with literals of their types. -/
theorem declarations_typed_iff_cart : ∃ node state widget component,
    Ir.Lowering.nodes (Script.report (.only cart cartTree) "Cart.jsx" cart) "Cart.jsx" "react" =
      .ok [node] ∧
    node.Keeps state ∧ Flutter.emit node.toValue (.object []) = .ok widget ∧
    React.emit node.toValue (.object []) = .ok component ∧
    cartLines.toList <:+: widget.content.toList ∧
    ∀ kept ∈ state,
      isDartLiteral (dart.nameOf kept.type) (dart.initialiser kept) = true ∧
      isTypeScriptLiteral (typeScript.nameOf kept.type) (typeScript.initialiser kept) = true := by
  obtain ⟨nodes, hnodes, -, hall⟩ := declarations_typed_iff cart_spellsNumbers cart_spellsTruths
    "Cart.jsx" cart "Cart.jsx" "react" []
  obtain ⟨node, state, hown, hkeeps, hvalues, hlines⟩ : ∃ node state,
      Ir.Lowering.nodes (Script.Summary.ofTree cartTree).toValue "Cart.jsx" "react" = .ok [node] ∧
      node.Keeps state ∧ state.map (·.initial) = [.int 2, .str "two's", .bool true, .null] ∧
      Text.joined "" (state.map Flutter.stateLine) = cartLines :=
    ⟨_, _, rfl, ⟨_, _, _, rfl⟩, rfl, by decide +kernel⟩
  rw [Script.Parser.report_only] at hnodes ⊢
  obtain rfl := Except.ok.inj (hown.symm.trans hnodes)
  obtain ⟨widget, component, hwidget, hcomponent, hdart, -, htyped⟩ :=
    hall node List.mem_cons_self state hkeeps
  have hfits : ∀ value ∈ state.map (·.initial), FitsDart value ∧ FitsTypeScript value := by
    rw [hvalues]
    simp only [List.forall_mem_cons]
    exact ⟨⟨trivial, trivial⟩, ⟨rfl, rfl⟩, ⟨trivial, trivial⟩, ⟨trivial, trivial⟩,
      List.forall_mem_nil _⟩
  rw [hlines] at hdart
  refine ⟨node, state, widget, component, hown, hkeeps, hwidget, hcomponent, hdart,
    fun kept hkept => ?_⟩
  obtain ⟨hfitsDart, hfitsTypeScript⟩ := hfits _ (List.mem_map_of_mem hkept)
  obtain ⟨hdartIff, htypeScriptIff⟩ := htyped kept hkept
  exact ⟨hdartIff.mpr hfitsDart, htypeScriptIff.mpr hfitsTypeScript⟩

/-- A fraction, a number beyond every float, and a text in which a backslash stands before an
apostrophe, as a component keeps them. -/
def oddValues : List StateVariable :=
  [("price", .number, "1.5"), ("sum", .number, "1e999"), ("title", .string, "'it\\'s'")].map
    fun (name, (kind : Script.Kind), text) =>
      .ofText name (Script.Component.literalText (some (.node kind none [.token text])))

/-- A fraction is declared as a whole number, a number beyond every float is written as a word, and
the text runs out of its literal. -/
theorem fraction_is_declared_whole :
    let node : Node :=
      ⟨.str "App", .component [] oddValues [] [], ⟨"App.jsx", "react", [], []⟩⟩
    (∃ widget, Flutter.emit node.toValue (.object []) = .ok widget ∧
        "  int price = 1.5;\n  int sum = inf;\n  String title = 'it\\\\'s';\n".toList <:+:
          widget.content.toList) ∧
      isDartLiteral "int" "1.5" = false ∧ isDartLiteral "int" "inf" = false ∧
      isDartLiteral "String" "'it\\\\'s'" = false ∧
      (∃ component, React.emit node.toValue (.object []) = .ok component ∧
        "  const [sum, setSum] = useState<number>(inf);\n".toList <:+: component.content.toList) ∧
      isTypeScriptLiteral "number" "inf" = false := by
  intro node
  have hkeeps : node.Keeps oddValues := ⟨[], [], [], rfl⟩
  have hsound : node.body.Sound := ⟨[], fun _ => .nil⟩
  have hname : node.toValue.field "name" = .ok (.str "App") := rfl
  have hemit := fun platform : Platform =>
    platform.emit_component_isOk hname hkeeps.isComponent hsound ⟨[], rfl⟩
  obtain ⟨widget, hwidget, -⟩ := hemit .flutter
  obtain ⟨component, hcomponent, -⟩ := hemit .react
  have hdart : Text.joined "" (oddValues.map Flutter.stateLine) =
      "  int price = 1.5;\n  int sum = inf;\n  String title = 'it\\\\'s';\n" := by
    decide +kernel
  have hscript : "  const [sum, setSum] = useState<number>(inf);\n" ∈
      oddValues.map React.stateLine := by
    decide +kernel
  refine ⟨⟨widget, hwidget, ?_⟩, rfl, rfl, rfl, ⟨component, hcomponent, ?_⟩, rfl⟩
  · rw [← hdart]
    exact Flutter.isInfix_stateLines hkeeps hwidget
  · exact (Text.isInfix_joined hscript).trans (React.isInfix_stateLines hkeeps hcomponent)

end Target

end Restack
