import Restack.Script.Grammar.Basic

/-!
# How expressions are written

Operands and operators, calls and literals, functions that are values, parameters and patterns.
-/

namespace Restack.Script.Grammar

open Form

/-- An expression. -/
def expression (dialect : Dialect) : Form :=
  let ofDialect : Form :=
    match dialect with
    | .markup => part .primaryExpression <|> node .jsxElement <|> node .jsxSelfClosingElement
    | .plain => node .typeAssertion <|> part .primaryExpression
  node .asExpression <|> node .satisfiesExpression <|> node .instantiationExpression <|>
    node .internalModule <|> ofDialect <|> node .assignmentExpression <|>
    node .augmentedAssignmentExpression <|> node .awaitExpression <|> node .unaryExpression <|>
    node .binaryExpression <|> node .ternaryExpression <|> node .updateExpression <|>
    node .newExpression <|> node .yieldExpression

/-- An expression without operators. -/
def primaryExpression : Form :=
  node .subscriptExpression <|> node .memberExpression <|> node .parenthesizedExpression <|>
    valueName <|> asName <|> node .thisWord <|> node .superWord <|> unit .number <|>
    node .string <|> node .templateString <|> node .regex <|> node .trueWord <|>
    node .falseWord <|> node .nullWord <|> node .object <|> node .array <|>
    node .functionExpression <|> node .arrowFunction <|> node .generatorFunction <|>
    node .classExpression <|> node .metaProperty <|> node .callExpression <|>
    node .nonNullExpression

/-- An expression in parentheses. -/
def parenthesizedExpression : Form :=
  sign "(" ++ ((part .expression ++ typed) <|> node .sequenceExpression) ++ sign ")"

/-- Several expressions with commas between them. -/
def sequenceExpression : Form := rightward (commaList1 (part .expression))

/-- A value that a generator gives out. -/
def yieldExpression : Form :=
  rightward (word "yield" ++ ((sign "*" ++ part .expression) <|> maybe (part .expression)))

/-- An item of an array or an argument of a call. -/
def item : Form := maybe (part .expression <|> node .spreadElement)

/-- An array. -/
def array : Form := sign "[" ++ commaList item ++ sign "]"

/-- The arguments of a call. -/
def arguments : Form := sign "(" ++ commaList item ++ sign ")"

/-- The items of a value in the place of one. -/
def spreadElement : Form := sign "..." ++ part .expression

/-- An object. -/
def object : Form :=
  let entry : Form :=
    node .pair <|> node .spreadElement <|> node .methodDefinition <|>
      renamed .shorthandPropertyIdentifier (name <|> reservedName)
  tiered .object (sign "\x7b" ++ commaList (maybe entry) ++ sign "\x7d")

/-- A property with its value. -/
def pair : Form := label .key (part .propertyName) ++ sign ":" ++ label .value (part .expression)

/-- A pattern that takes an object apart. -/
def objectPattern : Form :=
  let entry : Form :=
    node .pairPattern <|> node .restPattern <|> node .objectAssignmentPattern <|>
      renamed .shorthandPropertyIdentifierPattern (name <|> reservedName)
  tiered .object (sign "\x7b" ++ commaList (maybe entry) ++ sign "\x7d")

/-- A pattern that takes an array apart. -/
def arrayPattern : Form :=
  sign "[" ++ commaList (maybe (part .pattern <|> node .assignmentPattern)) ++ sign "]"

/-- A property and the pattern for it. -/
def pairPattern : Form :=
  label .key (part .propertyName) ++ sign ":" ++
    label .value (part .pattern <|> node .assignmentPattern)

/-- A pattern with a value for the case that there is none. -/
def assignmentPattern : Form := label .left (part .pattern) ++ sign "=" ++ part .expression

/-- A property with a value for the case that there is none. -/
def objectAssignmentPattern : Form :=
  label .left
      (renamed .shorthandPropertyIdentifierPattern (reservedName <|> name) <|>
        part .destructuringPattern) ++
    sign "=" ++ part .expression

/-- A pattern. -/
def pattern : Form := favoured (-1) (place <|> node .restPattern)

/-- All that is left over. -/
def restPattern : Form := rightward (sign "..." ++ place)

/-- A function that is a value. -/
def functionExpression : Form :=
  tiered .literal
    (maybe (word "async") ++ word "function" ++ label .name (maybe name) ++
      part .callSignature ++ label .body (node .statementBlock))

/-- A generator that is a value. -/
def generatorFunction : Form :=
  tiered .literal
    (maybe (word "async") ++ word "function" ++ sign "*" ++ label .name (maybe name) ++
      part .callSignature ++ label .body (node .statementBlock))

/-- A function with an arrow. -/
def arrowFunction : Form :=
  maybe (word "async") ++ (label .parameter (asName <|> name) <|> part .callSignature) ++
    sign "=>" ++ label .body (part .expression <|> node .statementBlock)

/-- A call. -/
def callExpression : Form :=
  tiered .call
      (label .function (part .expression <|> node .importWord) ++ applied ++
        label .arguments (node .arguments)) <|>
    tiered .templateCall
      (label .function (part .primaryExpression <|> node .newExpression) ++
        label .arguments (node .templateString)) <|>
    tiered .member
      (label .function (part .primaryExpression) ++ sign "?." ++ applied ++
        label .arguments (node .arguments))

/-- The making of an object. -/
def newExpression : Form :=
  rightTiered .new
    (word "new" ++ part .primaryExpression ++ applied ++ maybe (node .arguments))

/-- Waiting for a value. -/
def awaitExpression : Form := tiered .unaryVoid (word "await" ++ part .expression)

/-- Access to a member by its name. -/
def memberExpression : Form :=
  tiered .member
    ((part .expression <|> part .primaryExpression <|> node .importWord) ++
      (sign "." <|> node .optionalChain) ++ memberName)

/-- Access to a member by a computed key. -/
def subscriptExpression : Form :=
  rightTiered .member
    ((part .expression <|> part .primaryExpression) ++ maybe (node .optionalChain) ++ sign "[" ++
      expressions ++ sign "]")

/-- An assignment. -/
def assignmentExpression : Form :=
  rightTiered .assign
    (maybe (word "using") ++ (node .parenthesizedExpression <|> place) ++ sign "=" ++
      part .expression)

/-- A place whose value may be changed. -/
def augmentedTarget : Form :=
  node .memberExpression <|> node .subscriptExpression <|> asName <|> name <|>
    node .parenthesizedExpression <|> node .nonNullExpression

/-- An assignment that also computes. -/
def augmentedAssignmentExpression : Form :=
  rightTiered .assign
    (part .augmentedTarget ++
      signs ["+=", "-=", "*=", "/=", "%=", "^=", "&=", "|=", ">>=", ">>>=", "<<=", "**=", "&&=",
        "||=", "??="] ++
      part .expression)

/-- A choice between two values. -/
def ternaryExpression : Form :=
  rightTiered .ternary
    (part .expression ++ unit .choiceMark ++ part .expression ++ sign ":" ++ part .expression)

/-- Operators between two operands, and the tiers they are on. -/
def binaryOperators : List (String × Tier) :=
  [("&&", .logicalAnd), ("||", .logicalOr), (">>", .shift), (">>>", .shift), ("<<", .shift),
    ("&", .bitAnd), ("^", .bitXor), ("|", .bitOr), ("+", .plus), ("-", .plus), ("*", .times),
    ("/", .times), ("%", .times), ("<", .relation), ("<=", .relation), ("==", .equality),
    ("===", .equality), ("!=", .equality), ("!==", .equality), (">=", .relation),
    (">", .relation), ("??", .ternary)]

/-- Two operands with an operator between them. Powers are grouped from the right. -/
def binaryExpression : Form :=
  let powers : Form :=
    rightTiered .power (part .expression ++ sign "**" ++ part .expression)
  let instances : Form :=
    leftTiered .relation (part .expression ++ word "instanceof" ++ part .expression)
  let members : Form :=
    leftTiered .relation
      ((part .expression <|> unit .privateName) ++ word "in" ++ part .expression)
  binaryOperators.foldr
    (fun (operator, tier) rest =>
      leftTiered tier (part .expression ++ sign operator ++ part .expression) <|> rest)
    (powers <|> instances <|> members)

/-- An operand with an operator in front. -/
def unaryExpression : Form :=
  leftTiered .unaryVoid
    ((signs ["!", "~", "-", "+"] <|> words ["typeof", "void", "delete"]) ++ part .expression)

/-- A step by one. -/
def updateExpression : Form :=
  let steps : Form := signs ["++", "--"]
  leftward ((part .expression ++ steps) <|> (steps ++ part .expression))

/-- A value that is said to be there. -/
def nonNullExpression : Form := leftTiered .unary (part .expression ++ sign "!")

/-- A value that is said to be of a type. -/
def asExpression : Form :=
  leftTiered .binary (part .expression ++ word "as" ++ (word "const" <|> part .type))

/-- A value that is checked to be of a type. -/
def satisfiesExpression : Form :=
  leftTiered .binary (part .expression ++ word "satisfies" ++ part .type)

/-- A value that is applied to types. -/
def instantiationExpression : Form :=
  tiered .instantiation (part .expression ++ node .typeArguments)

/-- A value with its type in front. -/
def typeAssertion : Form := leftTiered .unary (node .typeArguments ++ part .expression)

/-- A text with values in it. -/
def templateString : Form :=
  sign "\x60" ++ many (unit .templatePart <|> unit .escape <|> node .templateSubstitution) ++
    sign "\x60"

/-- A value in a text. -/
def templateSubstitution : Form := sign "$\x7b" ++ expressions ++ sign "\x7d"

/-- A regular expression. -/
def regex : Form := sign "/" ++ unit .regexBody ++ unit .regexEnd ++ maybe (unit .regexFlags)

/-- What a call or a module says about itself. -/
def metaProperty : Form :=
  (word "new" ++ sign "." ++ word "target") <|> (word "import" ++ sign "." ++ word "meta")

/-- The parameters of a function. -/
def formalParameters : Form :=
  sign "(" ++ maybe (commaList1 (part .formalParameter) ++ maybe (sign ",")) ++ sign ")"

/-- What a parameter binds, with the words in front of it. -/
def parameterName : Form :=
  decorators ++ maybe (node .accessibilityModifier) ++ maybe (node .overrideModifier) ++
    maybe (word "readonly") ++ label .pattern (part .pattern <|> node .thisWord)

/-- A parameter. -/
def requiredParameter : Form := part .parameterName ++ typed ++ maybe (part .initializer)

/-- A parameter that may be left out. -/
def optionalParameter : Form :=
  part .parameterName ++ sign "?" ++ typed ++ maybe (part .initializer)

end Restack.Script.Grammar
