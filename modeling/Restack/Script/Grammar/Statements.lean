import Restack.Script.Grammar.Basic

/-!
# How statements are written

Declarations and the statements that direct the order of others.
-/

namespace Restack.Script.Grammar

open Form

/-- A statement. -/
def statement : Form :=
  node .exportStatement <|> node .importStatement <|> node .debuggerStatement <|>
    node .expressionStatement <|> part .declaration <|> node .statementBlock <|>
    node .ifStatement <|> node .switchStatement <|> node .forStatement <|>
    node .forInStatement <|> node .whileStatement <|> node .doStatement <|>
    node .tryStatement <|> node .withStatement <|> node .breakStatement <|>
    node .continueStatement <|> node .returnStatement <|> node .throwStatement <|>
    node .emptyStatement <|> node .labeledStatement

/-- A declaration. -/
def declaration : Form :=
  node .functionDeclaration <|> node .generatorFunctionDeclaration <|> node .classDeclaration <|>
    node .lexicalDeclaration <|> node .variableDeclaration <|> node .functionSignature <|>
    node .abstractClassDeclaration <|> node .moduleDeclaration <|>
    tiered .declare (node .internalModule) <|> node .typeAliasDeclaration <|>
    node .enumDeclaration <|> node .interfaceDeclaration <|> node .importAlias <|>
    node .ambientDeclaration

/-- A function with a name and a body. -/
def functionDeclaration : Form :=
  rightTiered .declare
    (maybe (word "async") ++ word "function" ++ label .name name ++ part .callSignature ++
      label .body (node .statementBlock) ++ maybe (unit .statementEnd))

/-- A generator with a name and a body. -/
def generatorFunctionDeclaration : Form :=
  rightTiered .declare
    (maybe (word "async") ++ word "function" ++ sign "*" ++ label .name name ++
      part .callSignature ++ label .body (node .statementBlock) ++ maybe (unit .statementEnd))

/-- A function whose body stands elsewhere. -/
def functionSignature : Form :=
  maybe (word "async") ++ word "function" ++ label .name name ++ part .callSignature ++
    (semicolon <|> unit .signatureEnd)

/-- Names that are declared for a block. -/
def lexicalDeclaration : Form :=
  words ["let", "const"] ++ commaList1 (node .variableDeclarator) ++ semicolon

/-- Names that are declared for a function. -/
def variableDeclaration : Form :=
  word "var" ++ commaList1 (node .variableDeclarator) ++ semicolon

/-- A name with its type and first value. -/
def variableDeclarator : Form :=
  (label .name declared ++ typed ++ maybe (part .initializer)) <|>
    tiered .declare (label .name name ++ sign "!" ++ node .typeAscription)

/-- A declaration that is only described. -/
def ambientDeclaration : Form :=
  word "declare" ++
    (part .declaration <|> (word "global" ++ node .statementBlock) <|>
      (word "module" ++ sign "." ++ renamed .propertyIdentifier name ++ sign ":" ++ part .type ++
        semicolon))

/-- The name of a module and what is in it, which may stand elsewhere. -/
def moduleContent : Form :=
  rightward
    (label .name (node .string <|> name <|> node .nestedIdentifier) ++
      label .body (maybe (node .statementBlock)))

/-- A name within others. -/
def nestedIdentifier : Form :=
  tiered .member
    ((name <|> renamed .memberExpression (node .nestedIdentifier)) ++ sign "." ++
      renamed .propertyIdentifier name)

/-- An interface. -/
def interfaceDeclaration : Form :=
  word "interface" ++ label .name typeName ++ generic ++ maybe (node .extendsTypeClause) ++
    label .body (renamed .interfaceBody (node .objectType))

/-- A name for a type. -/
def typeAliasDeclaration : Form :=
  word "type" ++ label .name typeName ++ generic ++ sign "=" ++ label .value (part .type) ++
    semicolon

/-- An enumeration. -/
def enumDeclaration : Form :=
  maybe (word "const") ++ word "enum" ++ label .name name ++ label .body (node .enumBody)

/-- The members of an enumeration. -/
def enumBody : Form :=
  sign "\x7b" ++
    maybe
      (commaList1 (label .name (part .propertyName) <|> node .enumAssignment) ++
        maybe (sign ",")) ++
    sign "\x7d"

/-- A block. -/
def statementBlock : Form :=
  rightward (sign "\x7b" ++ many (part .statement) ++ sign "\x7d" ++ maybe (unit .statementEnd))

/-- A choice between two statements. -/
def ifStatement : Form :=
  rightward
    (word "if" ++ node .parenthesizedExpression ++ part .statement ++ maybe (node .elseClause))

/-- A choice between many statements. -/
def switchStatement : Form :=
  word "switch" ++ node .parenthesizedExpression ++ label .body (node .switchBody)

/-- The cases of a choice between many statements. -/
def switchBody : Form :=
  sign "\x7b" ++ many (node .switchCase <|> node .switchDefault) ++ sign "\x7d"

/-- A loop over a range. -/
def forStatement : Form :=
  let first : Form :=
    node .lexicalDeclaration <|> node .variableDeclaration <|> (expressions ++ sign ";") <|>
      node .emptyStatement
  word "for" ++ sign "(" ++ first ++ ((expressions ++ sign ";") <|> node .emptyStatement) ++
    maybe expressions ++ sign ")" ++ label .body (part .statement)

/-- What a loop over the parts of a value goes over. -/
def forHeader : Form :=
  sign "(" ++
    (place <|> node .parenthesizedExpression <|>
      (word "var" ++ declared ++ maybe (part .initializer)) <|>
      (words ["let", "const"] ++ declared ++ maybe (unit .statementEnd))) ++
    words ["in", "of"] ++ expressions ++ sign ")"

/-- A loop over the parts of a value. -/
def forInStatement : Form :=
  word "for" ++ maybe (word "await") ++ part .forHeader ++ label .body (part .statement)

/-- A loop with its condition in front. -/
def whileStatement : Form :=
  word "while" ++ node .parenthesizedExpression ++ label .body (part .statement)

/-- A loop with its condition behind. -/
def doStatement : Form :=
  rightward
    (word "do" ++ label .body (part .statement) ++ word "while" ++
      node .parenthesizedExpression ++ maybe semicolon)

/-- A block that is tried, and what follows when it fails. -/
def tryStatement : Form :=
  word "try" ++ label .body (node .statementBlock) ++ maybe (node .catchClause) ++
    maybe (node .finallyClause)

/-- What is done with a failure. -/
def catchClause : Form :=
  word "catch" ++ maybe (sign "(" ++ label .parameter declared ++ typed ++ sign ")") ++
    label .body (node .statementBlock)

/-- A statement within the scope of an object. -/
def withStatement : Form :=
  word "with" ++ node .parenthesizedExpression ++ label .body (part .statement)

/-- A statement that leaves a statement with a label. -/
def jump (w : String) : Form :=
  word w ++ maybe (renamed .statementIdentifier name) ++ semicolon

/-- A statement with a label. -/
def labeledStatement : Form :=
  favoured (-1)
    (renamed .statementIdentifier (name <|> reservedName) ++ sign ":" ++
      label .body (part .statement))

end Restack.Script.Grammar
