import Restack.Script.Grammar.Basic

/-!
# How classes are written

Classes, what they build on, and their members.
-/

namespace Restack.Script.Grammar

open Form

/-- What a class builds on, and its members. -/
def classContent : Form :=
  generic ++ maybe (node .classHeritage) ++ label .body (node .classBody)

/-- A class that is a value. -/
def classExpression : Form :=
  tiered .literal (decorators ++ word "class" ++ label .name (maybe typeName) ++ classContent)

/-- A class with a name. -/
def classDeclaration : Form :=
  leftTiered .declare
    (decorators ++ word "class" ++ label .name typeName ++ classContent ++
      maybe (unit .statementEnd))

/-- A class that only others build on. -/
def abstractClassDeclaration : Form :=
  tiered .declare
    (decorators ++ word "abstract" ++ word "class" ++ label .name typeName ++ classContent)

/-- What a class builds on. -/
def classHeritage : Form :=
  (node .extendsClause ++ maybe (node .implementsClause)) <|> node .implementsClause

/-- A class that another builds on. -/
def extendsItem : Form := tiered .heritage (label .value (part .expression) ++ applied)

/-- A member that all objects of a class share, or a method without a body. -/
def modifiers : Form :=
  maybe (node .accessibilityModifier) ++ maybe (word "static") ++
    maybe (node .overrideModifier) ++ maybe (word "readonly")

/-- What a method is called by: to get a value, to set it, or as a generator. -/
def accessor : Form := maybe (words ["get", "set"] <|> sign "*")

/-- A method without its body. -/
def methodSignature : Form :=
  modifiers ++ maybe (word "async") ++ accessor ++ label .name (part .propertyName) ++
    maybe (sign "?") ++ part .callSignature

/-- A method. -/
def methodDefinition : Form := leftward (methodSignature ++ label .body (node .statementBlock))

/-- A method whose body stands in a class that builds on this one. -/
def abstractMethodSignature : Form :=
  maybe (node .accessibilityModifier) ++ word "abstract" ++ maybe (node .overrideModifier) ++
    accessor ++ label .name (part .propertyName) ++ maybe (sign "?") ++ part .callSignature

/-- A field. -/
def publicFieldDefinition : Form :=
  let access : Form :=
    maybe
      ((word "declare" ++ maybe (node .accessibilityModifier)) <|>
        (node .accessibilityModifier ++ maybe (word "declare")))
  let manner : Form :=
    (maybe (word "static") ++ maybe (node .overrideModifier) ++ maybe (word "readonly")) <|>
      (maybe (word "abstract") ++ maybe (word "readonly")) <|>
      (maybe (word "readonly") ++ maybe (word "abstract")) <|>
      maybe (word "accessor")
  decorators ++ access ++ manner ++ label .name (part .propertyName) ++
    maybe (signs ["?", "!"]) ++ typed ++ maybe (part .initializer)

/-- The members of a class. A semicolon after a method is a member of its own. -/
def classBody : Form :=
  let member : Form :=
    leftward (decorators ++ node .methodDefinition ++ maybe semicolon) <|>
      (node .methodSignature ++ (unit .signatureEnd <|> sign ",")) <|>
      node .classStaticBlock <|>
      ((node .abstractMethodSignature <|> node .indexSignature <|> node .methodSignature <|>
          node .publicFieldDefinition) ++
        (semicolon <|> sign ",")) <|>
      sign ";"
  sign "\x7b" ++ many member ++ sign "\x7d"

/-- What is done when a class is made. -/
def classStaticBlock : Form :=
  word "static" ++ label .body (node .statementBlock) ++ maybe (unit .statementEnd)

/-- A remark in front of a class or a member of one. -/
def decorator : Form :=
  sign "@" ++
    (name <|> renamed .memberExpression (part .decoratorMember) <|>
      renamed .callExpression (part .decoratorCall) <|>
      renamed .parenthesizedExpression (part .decoratorParenthesized))

/-- A remark that is a member of something. -/
def decoratorMember : Form :=
  tiered .member
    ((name <|> renamed .memberExpression (part .decoratorMember)) ++ sign "." ++
      renamed .propertyIdentifier name)

/-- A remark with arguments. -/
def decoratorCall : Form :=
  tiered .call
    (label .function (name <|> renamed .memberExpression (part .decoratorMember)) ++ applied ++
      label .arguments (node .arguments))

/-- A remark in parentheses. -/
def decoratorParenthesized : Form :=
  sign "(" ++
    (name <|> renamed .memberExpression (part .decoratorMember) <|>
      renamed .callExpression (part .decoratorCall)) ++
    sign ")"

end Restack.Script.Grammar
