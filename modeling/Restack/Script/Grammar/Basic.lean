import Restack.Script.Form

/-!
# Phrases that many rules share

Names, ends of statements, places to assign to, and other phrases of the grammar of scripts.
-/

namespace Restack.Script.Grammar

open Form

/-- A name. -/
def name : Form := unit .name

/-- Words that may also be names. -/
def reservedName : Form :=
  words ["declare", "namespace", "type", "public", "private", "protected", "override", "readonly",
    "module", "any", "number", "boolean", "string", "symbol", "export", "object", "new", "get",
    "set", "async", "static", "let"]

/-- A word as a name. -/
def asName : Form := renamed .identifier reservedName

/-- A name of a type. -/
def typeName : Form := renamed .typeIdentifier name

/-- A name of a value. -/
def valueName : Form := node .undefinedWord <|> name

/-- An expression, or several with commas between them. -/
def expressions : Form := part .expression <|> node .sequenceExpression

/-- The end of a statement. -/
def semicolon : Form := unit .statementEnd <|> sign ";"

/-- A place that a value may be assigned to. -/
def place : Form :=
  node .memberExpression <|> node .subscriptExpression <|> valueName <|> asName <|>
    part .destructuringPattern <|> node .nonNullExpression

/-- The name of a member, after the value that has it. -/
def memberName : Form := unit .privateName <|> renamed .propertyIdentifier name

/-- A name or a pattern that is declared. -/
def declared : Form := name <|> part .destructuringPattern

/-- The type of what stands before it, if it is stated. -/
def typed : Form := maybe (node .typeAscription)

/-- Types that what stands before it is applied to, if they are stated. -/
def applied : Form := maybe (node .typeArguments)

/-- Types that a definition leaves open. -/
def generic : Form := maybe (node .typeParameters)

/-- Remarks in front of a definition. -/
def decorators : Form := many (node .decorator)

/-- The value that a name begins with. -/
def initializer : Form := sign "=" ++ label .value (part .expression)

/-- Types and parameters of a function, and the type of its result. -/
def callSignature : Form :=
  generic ++ label .parameters (node .formalParameters) ++
    maybe (node .typeAscription <|> node .assertsAscription <|> node .typePredicateAscription)

/-- The name of a property. -/
def propertyName : Form :=
  renamed .propertyIdentifier (name <|> reservedName) <|> unit .privateName <|> node .string <|>
    unit .number <|> node .computedPropertyName

/-- A string between marks of one kind. -/
def stringOf (mark : Char) : Form :=
  sign mark.toString ++ many (unit (.stringPart mark) <|> unit .escape) ++ sign mark.toString

/-- A string. -/
def string : Form := stringOf '\x22' <|> stringOf '\x27'

end Restack.Script.Grammar
