import Restack.Script.Grammar.Basic

/-!
# How types are written

Types of values, members and functions, and the places where they are stated.
-/

namespace Restack.Script.Grammar

open Form

/-- A type. -/
def type : Form :=
  part .primaryType <|> node .functionType <|> node .readonlyType <|> node .constructorType <|>
    node .inferType <|>
    tiered (.rank (-1)) (renamed .memberExpression (part .importMember)) <|>
    tiered (.rank (-1)) (renamed .callExpression (part .importCall))

/-- A type that is no function and has no words in front. -/
def primaryType : Form :=
  node .parenthesizedType <|> node .predefinedType <|> typeName <|> node .nestedTypeIdentifier <|>
    node .genericType <|> node .objectType <|> node .arrayType <|> node .tupleType <|>
    node .flowMaybeType <|> node .typeQuery <|> node .indexTypeQuery <|>
    renamed .thisType (node .thisWord) <|> node .existentialType <|> node .literalType <|>
    node .lookupType <|> node .conditionalType <|> node .templateLiteralType <|>
    node .intersectionType <|> node .unionType <|> word "const"

/-- Types that have a name of their own. -/
def predefinedType : Form :=
  words ["any", "number", "boolean", "string", "symbol"] <|>
    (word "unique" ++ word "symbol") <|> words ["void", "unknown", "never", "object"]

/-- The type of a single value. -/
def literalType : Form :=
  renamed .unaryExpression (part .signedNumber) <|> unit .number <|> node .string <|>
    node .trueWord <|> node .falseWord <|> node .nullWord <|> node .undefinedWord

/-- A number with its sign. -/
def signedNumber : Form := leftTiered (.rank 1) (signs ["-", "+"] ++ unit .number)

/-- A type within a module. -/
def nestedTypeIdentifier : Form :=
  tiered .member ((name <|> node .nestedIdentifier) ++ sign "." ++ label .name typeName)

/-- A type that is applied to types. -/
def genericType : Form :=
  tiered .call (label .name (typeName <|> node .nestedTypeIdentifier) ++ node .typeArguments)

/-- Types of which a value has one. -/
def unionType : Form := leftward (maybe (part .type) ++ sign "|" ++ part .type)

/-- Types all of which a value has. -/
def intersectionType : Form := leftward (maybe (part .type) ++ sign "&" ++ part .type)

/-- A choice between two types. -/
def conditionalType : Form :=
  rightward
    (part .type ++ word "extends" ++ part .type ++ sign "?" ++ part .type ++ sign ":" ++
      part .type)

/-- A type that is found out. -/
def inferType : Form :=
  rightward (word "infer" ++ typeName ++ maybe (word "extends" ++ part .type))

/-- The type of a function. -/
def functionType : Form :=
  leftward
    (generic ++ label .parameters (node .formalParameters) ++ sign "=>" ++
      (part .type <|> node .asserts <|> node .typePredicate))

/-- The type of a function that makes objects. -/
def constructorType : Form :=
  leftward
    (maybe (word "abstract") ++ word "new" ++ generic ++
      label .parameters (node .formalParameters) ++ sign "=>" ++ part .type)

/-- The type of a template. -/
def templateLiteralType : Form :=
  sign "\x60" ++ many (unit .templatePart <|> node .templateType) ++ sign "\x60"

/-- A type in a template. -/
def templateType : Form :=
  sign "$\x7b" ++ (part .primaryType <|> node .inferType) ++ sign "\x7d"

/-- Types in a row. -/
def tupleType : Form :=
  sign "[" ++ commaList (part .tupleMember) ++ maybe (sign ",") ++ sign "]"

/-- A type in a row. -/
def tupleMember : Form :=
  renamed .requiredParameter (part .tupleParameter) <|>
    renamed .optionalParameter (part .optionalTupleParameter) <|> node .optionalType <|>
    node .restType <|> part .type

/-- The members of an object. -/
def objectType : Form :=
  let member : Form :=
    node .exportStatement <|> node .propertySignature <|> node .callSignature <|>
      node .constructSignature <|> node .indexSignature <|> node .methodSignature
  let stop : Form := sign "," <|> semicolon
  signs ["\x7b", "\x7b|"] ++
    maybe (maybe (signs [",", ";"]) ++ (member ++ many (stop ++ member)) ++ maybe stop) ++
    signs ["\x7d", "|\x7d"]

/-- A property of an object. -/
def propertySignature : Form :=
  maybe (node .accessibilityModifier) ++ maybe (word "static") ++
    maybe (node .overrideModifier) ++ maybe (word "readonly") ++
    label .name (part .propertyName) ++ maybe (sign "?") ++ typed

/-- How objects are made. -/
def constructSignature : Form :=
  maybe (word "abstract") ++ word "new" ++ generic ++
    label .parameters (node .formalParameters) ++ typed

/-- Members by their keys. -/
def indexSignature : Form :=
  maybe (maybe (signs ["-", "+"]) ++ word "readonly") ++ sign "[" ++
    ((label .name (name <|> asName) ++ sign ":" ++ part .type) <|> node .mappedTypeClause) ++
    sign "]" ++
    (node .typeAscription <|> node .omittingTypeAscription <|> node .addingTypeAscription <|>
      node .optingTypeAscription)

/-- The keys of members. -/
def mappedTypeClause : Form :=
  label .name typeName ++ word "in" ++ part .type ++
    maybe (word "as" ++ label .alias (part .type))

/-- A type that is left open. -/
def typeParameter : Form :=
  maybe (word "const") ++ label .name typeName ++ maybe (node .typeConstraint) ++
    maybe (node .defaultType)

/-- Something that is so if a function gives true. -/
def typePredicate : Form :=
  label .name (name <|> node .thisWord <|> renamed .identifier (node .predefinedType)) ++
    word "is" ++ part .type

/-- Something that is so if a function comes to its end. -/
def asserts : Form := word "asserts" ++ (node .typePredicate <|> name <|> node .thisWord)

/-- The type of a value. -/
def typeQuery : Form :=
  rightward
    (word "typeof" ++
      (renamed .subscriptExpression (part .querySubscript) <|>
        renamed .memberExpression (part .queryMember) <|>
        renamed .callExpression (part .queryCall) <|>
        renamed .instantiationExpression (part .queryInstantiation) <|> name <|>
        node .thisWord))

/-- What members of a value are asked of. -/
def queryObject : Form :=
  name <|> node .thisWord <|> renamed .subscriptExpression (part .querySubscript) <|>
    renamed .memberExpression (part .queryMember) <|> renamed .callExpression (part .queryCall)

/-- What is called in the type of a value. -/
def queryFunction : Form :=
  node .importWord <|> name <|> renamed .memberExpression (part .queryMember) <|>
    renamed .subscriptExpression (part .querySubscript)

/-- A member of a value. -/
def queryMember : Form := queryObject ++ signs [".", "?."] ++ memberName

/-- A member of a value by its key. -/
def querySubscript : Form :=
  queryObject ++ maybe (sign "?.") ++ sign "[" ++
    (node .predefinedType <|> node .string <|> unit .number) ++ sign "]"

/-- The result of a call. -/
def queryCall : Form :=
  label .function queryFunction ++ label .arguments (node .arguments)

/-- A value that is applied to types. -/
def queryInstantiation : Form := label .function queryFunction ++ node .typeArguments

/-- A member of a module that is called for. -/
def importMember : Form :=
  (node .importWord <|> renamed .memberExpression (part .importMember) <|>
      renamed .callExpression (part .importCall)) ++
    sign "." ++ memberName

/-- A module that is called for. -/
def importCall : Form :=
  label .function (node .importWord <|> renamed .memberExpression (part .importMember)) ++
    label .arguments (node .arguments)

end Restack.Script.Grammar
