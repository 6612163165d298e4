import Restack.Script.Grammar.Types
import Restack.Script.Grammar.Markup
import Restack.Script.Grammar.Expressions
import Restack.Script.Grammar.Modules
import Restack.Script.Grammar.Classes
import Restack.Script.Grammar.Statements

/-!
# The grammar of scripts

What each rule says, and which of two readings is preferred.
-/

namespace Restack.Script

open Form

/-- What a part is, in a dialect. -/
def Grammar.ofPart (dialect : Dialect) : Part → Form
  | .statement => statement
  | .declaration => declaration
  | .expression => expression dialect
  | .primaryExpression => primaryExpression
  | .pattern => pattern
  | .type => type
  | .primaryType => primaryType
  | .moduleExportName => moduleExportName
  | .importIdentifier => importIdentifier
  | .fromClause => fromClause
  | .forHeader => forHeader
  | .initializer => initializer
  | .destructuringPattern => node .objectPattern <|> node .arrayPattern
  | .augmentedTarget => augmentedTarget
  | .propertyName => propertyName
  | .callSignature => callSignature
  | .formalParameter => node .requiredParameter <|> node .optionalParameter
  | .parameterName => parameterName
  | .moduleContent => moduleContent
  | .extendsItem => extendsItem
  | .tupleMember => tupleMember
  | .tupleParameter => label .name (name <|> node .restPattern) ++ node .typeAscription
  | .optionalTupleParameter => label .name name ++ sign "?" ++ node .typeAscription
  | .signedNumber => signedNumber
  | .attributeString => attributeString
  | .decoratorMember => decoratorMember
  | .decoratorCall => decoratorCall
  | .decoratorParenthesized => decoratorParenthesized
  | .queryMember => queryMember
  | .querySubscript => querySubscript
  | .queryCall => queryCall
  | .queryInstantiation => queryInstantiation
  | .importMember => importMember
  | .importCall => importCall

/-- What a node of a kind is made of. Kinds that only name units have no rule. -/
def Grammar.ofKind : Kind → Form
  | .program => maybe (unit .interpreterLine) ++ many (part .statement)
  | .importStatement => importStatement
  | .importClause => importClause
  | .namespaceImport => sign "*" ++ word "as" ++ name
  | .namedImports => namedImports
  | .importSpecifier => importSpecifier
  | .importRequireClause => importRequireClause
  | .importAttribute => word "with" ++ node .object
  | .importAlias => importAlias
  | .exportStatement => exportStatement
  | .exportClause => exportClause
  | .exportSpecifier => exportSpecifier
  | .namespaceExport => sign "*" ++ word "as" ++ part .moduleExportName
  | .expressionStatement => expressions ++ semicolon
  | .variableDeclaration => variableDeclaration
  | .lexicalDeclaration => lexicalDeclaration
  | .variableDeclarator => variableDeclarator
  | .statementBlock => statementBlock
  | .ifStatement => ifStatement
  | .elseClause => word "else" ++ part .statement
  | .switchStatement => switchStatement
  | .switchBody => switchBody
  | .switchCase => word "case" ++ expressions ++ sign ":" ++ many (part .statement)
  | .switchDefault => word "default" ++ sign ":" ++ many (part .statement)
  | .forStatement => forStatement
  | .forInStatement => forInStatement
  | .whileStatement => whileStatement
  | .doStatement => doStatement
  | .tryStatement => tryStatement
  | .catchClause => catchClause
  | .finallyClause => word "finally" ++ label .body (node .statementBlock)
  | .withStatement => withStatement
  | .breakStatement => jump "break"
  | .continueStatement => jump "continue"
  | .debuggerStatement => word "debugger" ++ semicolon
  | .returnStatement => word "return" ++ maybe expressions ++ semicolon
  | .throwStatement => word "throw" ++ expressions ++ semicolon
  | .emptyStatement => sign ";"
  | .labeledStatement => labeledStatement
  | .functionDeclaration => functionDeclaration
  | .generatorFunctionDeclaration => generatorFunctionDeclaration
  | .functionSignature => functionSignature
  | .classDeclaration => classDeclaration
  | .abstractClassDeclaration => abstractClassDeclaration
  | .classExpression => classExpression
  | .classBody => classBody
  | .classHeritage => classHeritage
  | .extendsClause => word "extends" ++ commaList1 (part .extendsItem)
  | .implementsClause => word "implements" ++ commaList1 (part .type)
  | .classStaticBlock => classStaticBlock
  | .methodDefinition => methodDefinition
  | .publicFieldDefinition => publicFieldDefinition
  | .abstractMethodSignature => abstractMethodSignature
  | .methodSignature => methodSignature
  | .indexSignature => indexSignature
  | .accessibilityModifier => words ["public", "private", "protected"]
  | .overrideModifier => word "override"
  | .decorator => decorator
  | .interfaceDeclaration => interfaceDeclaration
  | .extendsTypeClause =>
    word "extends" ++
      commaList1 (typeName <|> node .nestedTypeIdentifier <|> node .genericType)
  | .enumDeclaration => enumDeclaration
  | .enumBody => enumBody
  | .enumAssignment => label .name (part .propertyName) ++ part .initializer
  | .typeAliasDeclaration => typeAliasDeclaration
  | .ambientDeclaration => ambientDeclaration
  | .moduleDeclaration => word "module" ++ part .moduleContent
  | .internalModule => word "namespace" ++ part .moduleContent
  | .nestedIdentifier => nestedIdentifier
  | .nestedTypeIdentifier => nestedTypeIdentifier
  | .undefinedWord => word "undefined"
  | .thisWord => word "this"
  | .superWord => word "super"
  | .importWord => word "import"
  | .trueWord => word "true"
  | .falseWord => word "false"
  | .nullWord => word "null"
  | .string => string
  | .templateString => templateString
  | .templateSubstitution => templateSubstitution
  | .regex => regex
  | .object => object
  | .pair => pair
  | .computedPropertyName => sign "[" ++ part .expression ++ sign "]"
  | .spreadElement => spreadElement
  | .array => array
  | .objectPattern => objectPattern
  | .arrayPattern => arrayPattern
  | .pairPattern => pairPattern
  | .assignmentPattern => assignmentPattern
  | .objectAssignmentPattern => objectAssignmentPattern
  | .restPattern => restPattern
  | .functionExpression => functionExpression
  | .generatorFunction => generatorFunction
  | .arrowFunction => arrowFunction
  | .formalParameters => formalParameters
  | .requiredParameter => requiredParameter
  | .optionalParameter => optionalParameter
  | .callExpression => callExpression
  | .newExpression => newExpression
  | .arguments => arguments
  | .optionalChain => sign "?."
  | .memberExpression => memberExpression
  | .subscriptExpression => subscriptExpression
  | .assignmentExpression => assignmentExpression
  | .augmentedAssignmentExpression => augmentedAssignmentExpression
  | .unaryExpression => unaryExpression
  | .binaryExpression => binaryExpression
  | .updateExpression => updateExpression
  | .ternaryExpression => ternaryExpression
  | .sequenceExpression => sequenceExpression
  | .awaitExpression => awaitExpression
  | .yieldExpression => yieldExpression
  | .parenthesizedExpression => parenthesizedExpression
  | .asExpression => asExpression
  | .satisfiesExpression => satisfiesExpression
  | .nonNullExpression => nonNullExpression
  | .typeAssertion => typeAssertion
  | .instantiationExpression => instantiationExpression
  | .metaProperty => metaProperty
  | .jsxElement => jsxElement
  | .jsxOpeningElement => jsxOpeningElement
  | .jsxClosingElement => jsxClosingElement
  | .jsxSelfClosingElement => jsxSelfClosingElement
  | .jsxAttribute => jsxAttribute
  | .jsxExpression => jsxExpression
  | .jsxNamespaceName => jsxNamespaceName
  | .typeAscription => sign ":" ++ part .type
  | .omittingTypeAscription => sign "-?:" ++ part .type
  | .addingTypeAscription => sign "+?:" ++ part .type
  | .optingTypeAscription => sign "?:" ++ part .type
  | .asserts => asserts
  | .assertsAscription => sign ":" ++ node .asserts
  | .typePredicate => typePredicate
  | .typePredicateAscription => sign ":" ++ node .typePredicate
  | .typeArguments => sign "<" ++ commaList1 (part .type) ++ maybe (sign ",") ++ sign ">"
  | .typeParameters =>
    sign "<" ++ commaList1 (node .typeParameter) ++ maybe (sign ",") ++ sign ">"
  | .typeParameter => typeParameter
  | .typeConstraint => (word "extends" <|> sign ":") ++ part .type
  | .defaultType => sign "=" ++ part .type
  | .predefinedType => predefinedType
  | .literalType => literalType
  | .objectType => objectType
  | .propertySignature => propertySignature
  | .callSignature => part .callSignature
  | .constructSignature => constructSignature
  | .mappedTypeClause => mappedTypeClause
  | .arrayType => part .primaryType ++ sign "[" ++ sign "]"
  | .tupleType => tupleType
  | .optionalType => part .type ++ sign "?"
  | .restType => sign "..." ++ part .type
  | .unionType => unionType
  | .intersectionType => intersectionType
  | .functionType => functionType
  | .constructorType => constructorType
  | .conditionalType => conditionalType
  | .inferType => inferType
  | .readonlyType => word "readonly" ++ part .type
  | .genericType => genericType
  | .lookupType => part .primaryType ++ sign "[" ++ part .type ++ sign "]"
  | .indexTypeQuery => word "keyof" ++ part .primaryType
  | .typeQuery => typeQuery
  | .parenthesizedType => sign "(" ++ part .type ++ sign ")"
  | .flowMaybeType => rightward (sign "?" ++ part .primaryType)
  | .existentialType => sign "*"
  | .templateLiteralType => templateLiteralType
  | .templateType => templateType
  | _ => empty

/-- What each rule says in a dialect. -/
def grammar (dialect : Dialect) : Rule → Form
  | .node kind => Grammar.ofKind kind
  | .part p => Grammar.ofPart dialect p

/-- Rules of which two may fit the same text, the preferred ones last: patterns come after values,
and types after both. -/
def preference : List Rule :=
  [.node .objectAssignmentPattern, .part .primaryExpression, .node .object, .node .objectPattern,
    .node .array, .node .arrayPattern, .node .nestedIdentifier, .node .assignmentExpression,
    .node .templateString, .part .pattern, .part .propertyName, .node .computedPropertyName,
    .part .parameterName, .part .primaryType, .node .templateLiteralType, .node .literalType,
    .node .predefinedType, .node .nestedTypeIdentifier, .node .objectType, .node .tupleType,
    .node .typeParameter]

/-- Orders of precedence, the tighter before the looser. -/
def precedence : List (List PrecedenceEntry) :=
  let node (kind : Kind) : PrecedenceEntry := .rule (.node kind)
  let part (p : Part) : PrecedenceEntry := .rule (.part p)
  [[.tier .member, .tier .templateCall, .tier .call, node .updateExpression, .tier .unaryVoid,
      .tier .power, .tier .times, .tier .plus, .tier .shift, .tier .relation, .tier .equality,
      .tier .bitAnd, .tier .bitXor, .tier .bitOr, .tier .logicalAnd, .tier .logicalOr,
      .tier .ternary, node .sequenceExpression, node .arrowFunction],
    [.tier .assign, part .primaryExpression],
    [.tier .member, .tier .templateCall, .tier .new, .tier .call, part .expression],
    [.tier .declare, .tier .literal],
    [part .primaryExpression, node .statementBlock, .tier .object],
    [node .metaProperty, node .importWord],
    [node .importStatement, node .importWord],
    [node .exportStatement, part .primaryExpression],
    [node .lexicalDeclaration, part .primaryExpression],
    [.tier .call, .tier .instantiation, .tier .unary, .tier .binary, node .awaitExpression,
      node .arrowFunction],
    [.tier .heritage, .tier .instantiation],
    [node .intersectionType, node .unionType, node .conditionalType, node .functionType,
      .tier .binary, node .typePredicate, node .readonlyType],
    [node .mappedTypeClause, part .primaryExpression],
    [node .accessibilityModifier, part .primaryExpression],
    [.tier .unaryVoid, part .expression],
    [node .extendsClause, part .primaryExpression],
    [.tier .unary, .tier .assign],
    [.tier .declare, part .expression],
    [node .predefinedType, node .unaryExpression],
    [part .type, node .flowMaybeType],
    [node .tupleType, node .arrayType, part .pattern, part .type],
    [node .readonlyType, part .pattern],
    [node .readonlyType, part .primaryExpression],
    [node .typeQuery, node .subscriptExpression, part .expression],
    [node .typeQuery, part .querySubscript],
    [node .nestedTypeIdentifier, node .genericType, part .primaryType, node .lookupType,
      node .indexTypeQuery, part .type],
    [node .asExpression, node .satisfiesExpression, part .primaryType],
    [part .queryMember, node .memberExpression],
    [node .memberExpression, part .importMember],
    [part .queryMember, part .primaryExpression],
    [part .querySubscript, node .subscriptExpression],
    [part .querySubscript, part .primaryExpression],
    [part .queryCall, part .primaryExpression],
    [part .queryInstantiation, part .primaryExpression],
    [node .typeQuery, part .primaryExpression],
    [node .overrideModifier, part .primaryExpression],
    [part .decoratorCall, node .decorator],
    [node .literalType, part .pattern],
    [node .predefinedType, part .pattern],
    [node .callExpression, part .queryCall],
    [node .callExpression, part .importCall],
    [node .newExpression, part .primaryExpression],
    [node .metaProperty, part .primaryExpression],
    [node .constructSignature, part .propertyName]]

end Restack.Script
