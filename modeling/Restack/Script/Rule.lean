import Restack.Script.Parser

/-!
# Rules of the grammar of scripts

What follows a rule is a node, or a part that is no node of its own. Where a script can be read in
two ways, a precedence between rules decides.
-/

namespace Restack.Script

/-- The parts of a script that are no nodes of their own. -/
inductive Part where
  | statement | declaration | expression | primaryExpression | pattern | type | primaryType
  | moduleExportName | importIdentifier | fromClause | forHeader | initializer
  | destructuringPattern | augmentedTarget | propertyName | callSignature | formalParameter
  | parameterName | moduleContent | extendsItem | tupleMember | tupleParameter
  | optionalTupleParameter | signedNumber | attributeString
  | decoratorMember | decoratorCall | decoratorParenthesized
  | queryMember | querySubscript | queryCall | queryInstantiation | importMember | importCall
deriving DecidableEq, Hashable, Repr

/-- A rule of the grammar. -/
inductive Rule where
  /-- What follows the rule is a node of this kind. -/
  | node (kind : Kind)
  /-- What follows the rule is no node. -/
  | part (part : Part)
deriving DecidableEq, Hashable, Repr

/-- How tightly a form binds: by a number, or by a name that stands in an order. -/
inductive Tier where
  | rank (n : Int)
  | member | templateCall | call | new | unaryVoid | power | times | plus | shift | relation
  | equality | bitAnd | bitXor | bitOr | logicalAnd | logicalOr | ternary | assign | declare
  | literal | object | instantiation | unary | binary | heritage
deriving DecidableEq, Hashable, Repr

/-- Which operands of a row of operators are grouped first. -/
inductive Side where
  | left | right
deriving DecidableEq, Hashable, Repr

/-- What stands in an order of precedence: the forms on a tier, or the forms of a rule. -/
inductive PrecedenceEntry where
  | tier (t : Tier)
  | rule (r : Rule)
deriving DecidableEq, Repr

end Restack.Script
