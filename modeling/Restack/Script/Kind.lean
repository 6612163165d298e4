import Restack.Text.Split
import Restack.Text.Case

/-!
# Kinds of syntax nodes

The kinds of nodes that a script's syntax tree is made of, and the labels that mark the part a node
plays within its parent.
-/

namespace Restack.Script

/-- The kind of a syntax node. -/
inductive Kind where
  | program | interpreterLine | comment | htmlComment
  | importStatement | importClause | namespaceImport | namedImports | importSpecifier
  | importRequireClause | importAttribute | importAlias | exportStatement | exportClause
  | exportSpecifier | namespaceExport
  | expressionStatement | variableDeclaration | lexicalDeclaration | variableDeclarator
  | statementBlock | ifStatement | elseClause | switchStatement | switchBody | switchCase
  | switchDefault | forStatement | forInStatement | whileStatement | doStatement | tryStatement
  | catchClause | finallyClause | withStatement | breakStatement | continueStatement
  | debuggerStatement | returnStatement | throwStatement | emptyStatement | labeledStatement
  | statementIdentifier
  | functionDeclaration | generatorFunctionDeclaration | functionSignature | classDeclaration
  | abstractClassDeclaration | classExpression | classBody | classHeritage | extendsClause
  | implementsClause | classStaticBlock | methodDefinition | publicFieldDefinition
  | abstractMethodSignature | methodSignature | indexSignature | accessibilityModifier
  | overrideModifier | decorator
  | interfaceDeclaration | interfaceBody | extendsTypeClause | enumDeclaration | enumBody
  | enumAssignment | typeAliasDeclaration | ambientDeclaration | moduleDeclaration | internalModule
  | identifier | propertyIdentifier | privatePropertyIdentifier | shorthandPropertyIdentifier
  | shorthandPropertyIdentifierPattern | typeIdentifier | nestedIdentifier | nestedTypeIdentifier
  | undefinedWord | thisWord | superWord | importWord | trueWord | falseWord | nullWord
  | number | string | stringFragment | escapeSequence | templateString | templateSubstitution
  | regex | regexPattern | regexFlags
  | object | pair | computedPropertyName | spreadElement | array | objectPattern | arrayPattern
  | pairPattern | assignmentPattern | objectAssignmentPattern | restPattern
  | functionExpression | generatorFunction | arrowFunction | formalParameters | requiredParameter
  | optionalParameter
  | callExpression | newExpression | arguments | optionalChain | memberExpression
  | subscriptExpression | assignmentExpression | augmentedAssignmentExpression | unaryExpression
  | binaryExpression | updateExpression | ternaryExpression | sequenceExpression | awaitExpression
  | yieldExpression | parenthesizedExpression | asExpression | satisfiesExpression
  | nonNullExpression | typeAssertion | instantiationExpression | metaProperty
  | jsxElement | jsxOpeningElement | jsxClosingElement | jsxSelfClosingElement | jsxAttribute
  | jsxExpression | jsxText | jsxNamespaceName | htmlCharacterReference
  | typeAscription | omittingTypeAscription | addingTypeAscription | optingTypeAscription | asserts
  | assertsAscription | typePredicate | typePredicateAscription | typeArguments | typeParameters
  | typeParameter | typeConstraint | defaultType
  | predefinedType | thisType | literalType | objectType | propertySignature | callSignature
  | constructSignature | mappedTypeClause | arrayType | tupleType | optionalType | restType
  | unionType | intersectionType | functionType | constructorType | conditionalType | inferType
  | readonlyType | genericType | lookupType | indexTypeQuery | typeQuery | parenthesizedType
  | flowMaybeType | existentialType | templateLiteralType | templateType
deriving DecidableEq, Hashable, Repr

namespace Kind

/-- The name of a kind, in small letters with low lines. -/
def name : Kind → String
  | .program => "program"
  | .interpreterLine => "hash_bang_line"
  | .comment => "comment"
  | .htmlComment => "html_comment"
  | .importStatement => "import_statement"
  | .importClause => "import_clause"
  | .namespaceImport => "namespace_import"
  | .namedImports => "named_imports"
  | .importSpecifier => "import_specifier"
  | .importRequireClause => "import_require_clause"
  | .importAttribute => "import_attribute"
  | .importAlias => "import_alias"
  | .exportStatement => "export_statement"
  | .exportClause => "export_clause"
  | .exportSpecifier => "export_specifier"
  | .namespaceExport => "namespace_export"
  | .expressionStatement => "expression_statement"
  | .variableDeclaration => "variable_declaration"
  | .lexicalDeclaration => "lexical_declaration"
  | .variableDeclarator => "variable_declarator"
  | .statementBlock => "statement_block"
  | .ifStatement => "if_statement"
  | .elseClause => "else_clause"
  | .switchStatement => "switch_statement"
  | .switchBody => "switch_body"
  | .switchCase => "switch_case"
  | .switchDefault => "switch_default"
  | .forStatement => "for_statement"
  | .forInStatement => "for_in_statement"
  | .whileStatement => "while_statement"
  | .doStatement => "do_statement"
  | .tryStatement => "try_statement"
  | .catchClause => "catch_clause"
  | .finallyClause => "finally_clause"
  | .withStatement => "with_statement"
  | .breakStatement => "break_statement"
  | .continueStatement => "continue_statement"
  | .debuggerStatement => "debugger_statement"
  | .returnStatement => "return_statement"
  | .throwStatement => "throw_statement"
  | .emptyStatement => "empty_statement"
  | .labeledStatement => "labeled_statement"
  | .statementIdentifier => "statement_identifier"
  | .functionDeclaration => "function_declaration"
  | .generatorFunctionDeclaration => "generator_function_declaration"
  | .functionSignature => "function_signature"
  | .classDeclaration => "class_declaration"
  | .abstractClassDeclaration => "abstract_class_declaration"
  | .classExpression => "class"
  | .classBody => "class_body"
  | .classHeritage => "class_heritage"
  | .extendsClause => "extends_clause"
  | .implementsClause => "implements_clause"
  | .classStaticBlock => "class_static_block"
  | .methodDefinition => "method_definition"
  | .publicFieldDefinition => "public_field_definition"
  | .abstractMethodSignature => "abstract_method_signature"
  | .methodSignature => "method_signature"
  | .indexSignature => "index_signature"
  | .accessibilityModifier => "accessibility_modifier"
  | .overrideModifier => "override_modifier"
  | .decorator => "decorator"
  | .interfaceDeclaration => "interface_declaration"
  | .interfaceBody => "interface_body"
  | .extendsTypeClause => "extends_type_clause"
  | .enumDeclaration => "enum_declaration"
  | .enumBody => "enum_body"
  | .enumAssignment => "enum_assignment"
  | .typeAliasDeclaration => "type_alias_declaration"
  | .ambientDeclaration => "ambient_declaration"
  | .moduleDeclaration => "module"
  | .internalModule => "internal_module"
  | .identifier => "identifier"
  | .propertyIdentifier => "property_identifier"
  | .privatePropertyIdentifier => "private_property_identifier"
  | .shorthandPropertyIdentifier => "shorthand_property_identifier"
  | .shorthandPropertyIdentifierPattern => "shorthand_property_identifier_pattern"
  | .typeIdentifier => "type_identifier"
  | .nestedIdentifier => "nested_identifier"
  | .nestedTypeIdentifier => "nested_type_identifier"
  | .undefinedWord => "undefined"
  | .thisWord => "this"
  | .superWord => "super"
  | .importWord => "import"
  | .trueWord => "true"
  | .falseWord => "false"
  | .nullWord => "null"
  | .number => "number"
  | .string => "string"
  | .stringFragment => "string_fragment"
  | .escapeSequence => "escape_sequence"
  | .templateString => "template_string"
  | .templateSubstitution => "template_substitution"
  | .regex => "regex"
  | .regexPattern => "regex_pattern"
  | .regexFlags => "regex_flags"
  | .object => "object"
  | .pair => "pair"
  | .computedPropertyName => "computed_property_name"
  | .spreadElement => "spread_element"
  | .array => "array"
  | .objectPattern => "object_pattern"
  | .arrayPattern => "array_pattern"
  | .pairPattern => "pair_pattern"
  | .assignmentPattern => "assignment_pattern"
  | .objectAssignmentPattern => "object_assignment_pattern"
  | .restPattern => "rest_pattern"
  | .functionExpression => "function_expression"
  | .generatorFunction => "generator_function"
  | .arrowFunction => "arrow_function"
  | .formalParameters => "formal_parameters"
  | .requiredParameter => "required_parameter"
  | .optionalParameter => "optional_parameter"
  | .callExpression => "call_expression"
  | .newExpression => "new_expression"
  | .arguments => "arguments"
  | .optionalChain => "optional_chain"
  | .memberExpression => "member_expression"
  | .subscriptExpression => "subscript_expression"
  | .assignmentExpression => "assignment_expression"
  | .augmentedAssignmentExpression => "augmented_assignment_expression"
  | .unaryExpression => "unary_expression"
  | .binaryExpression => "binary_expression"
  | .updateExpression => "update_expression"
  | .ternaryExpression => "ternary_expression"
  | .sequenceExpression => "sequence_expression"
  | .awaitExpression => "await_expression"
  | .yieldExpression => "yield_expression"
  | .parenthesizedExpression => "parenthesized_expression"
  | .asExpression => "as_expression"
  | .satisfiesExpression => "satisfies_expression"
  | .nonNullExpression => "non_null_expression"
  | .typeAssertion => "type_assertion"
  | .instantiationExpression => "instantiation_expression"
  | .metaProperty => "meta_property"
  | .jsxElement => "jsx_element"
  | .jsxOpeningElement => "jsx_opening_element"
  | .jsxClosingElement => "jsx_closing_element"
  | .jsxSelfClosingElement => "jsx_self_closing_element"
  | .jsxAttribute => "jsx_attribute"
  | .jsxExpression => "jsx_expression"
  | .jsxText => "jsx_text"
  | .jsxNamespaceName => "jsx_namespace_name"
  | .htmlCharacterReference => "html_character_reference"
  | .typeAscription => "type_annotation"
  | .omittingTypeAscription => "omitting_type_annotation"
  | .addingTypeAscription => "adding_type_annotation"
  | .optingTypeAscription => "opting_type_annotation"
  | .asserts => "asserts"
  | .assertsAscription => "asserts_annotation"
  | .typePredicate => "type_predicate"
  | .typePredicateAscription => "type_predicate_annotation"
  | .typeArguments => "type_arguments"
  | .typeParameters => "type_parameters"
  | .typeParameter => "type_parameter"
  | .typeConstraint => "constraint"
  | .defaultType => "default_type"
  | .predefinedType => "predefined_type"
  | .thisType => "this_type"
  | .literalType => "literal_type"
  | .objectType => "object_type"
  | .propertySignature => "property_signature"
  | .callSignature => "call_signature"
  | .constructSignature => "construct_signature"
  | .mappedTypeClause => "mapped_type_clause"
  | .arrayType => "array_type"
  | .tupleType => "tuple_type"
  | .optionalType => "optional_type"
  | .restType => "rest_type"
  | .unionType => "union_type"
  | .intersectionType => "intersection_type"
  | .functionType => "function_type"
  | .constructorType => "constructor_type"
  | .conditionalType => "conditional_type"
  | .inferType => "infer_type"
  | .readonlyType => "readonly_type"
  | .genericType => "generic_type"
  | .lookupType => "lookup_type"
  | .indexTypeQuery => "index_type_query"
  | .typeQuery => "type_query"
  | .parenthesizedType => "parenthesized_type"
  | .flowMaybeType => "flow_maybe_type"
  | .existentialType => "existential_type"
  | .templateLiteralType => "template_literal_type"
  | .templateType => "template_type"

/-- The name of a kind with each part capitalized and the low lines left out. -/
def title (kind : Kind) : String :=
  String.ofList ((Text.splitOnChar '_' kind.name.toList).flatMap Text.capitalize)

/-- Elements of markup. -/
def isElement (kind : Kind) : Bool :=
  kind == .jsxElement || kind == .jsxSelfClosingElement

/-- Nodes that hold the body of a function of their own. Generator expressions are not among
them. -/
def isFunction (kind : Kind) : Bool :=
  kind == .arrowFunction || kind == .functionExpression || kind == .functionDeclaration ||
    kind == .generatorFunctionDeclaration || kind == .methodDefinition

/-- Nodes that are made of a single unit of the script. -/
def isUnit (kind : Kind) : Bool :=
  [identifier, privatePropertyIdentifier, number, interpreterLine, htmlCharacterReference, jsxText,
    stringFragment, escapeSequence, regexPattern, regexFlags, comment, htmlComment].contains kind

end Kind

/-- A kind that a part takes on where it stands, whatever it is made of. -/
inductive Guise where
  | identifier | propertyIdentifier | shorthandPropertyIdentifier
  | shorthandPropertyIdentifierPattern | typeIdentifier | statementIdentifier
  | memberExpression | subscriptExpression | callExpression | instantiationExpression
  | parenthesizedExpression | unaryExpression | string | thisType | interfaceBody
  | requiredParameter | optionalParameter
deriving DecidableEq, Hashable, Repr

namespace Guise

/-- The kind that a guise gives. -/
def kind : Guise → Kind
  | identifier => .identifier
  | propertyIdentifier => .propertyIdentifier
  | shorthandPropertyIdentifier => .shorthandPropertyIdentifier
  | shorthandPropertyIdentifierPattern => .shorthandPropertyIdentifierPattern
  | typeIdentifier => .typeIdentifier
  | statementIdentifier => .statementIdentifier
  | memberExpression => .memberExpression
  | subscriptExpression => .subscriptExpression
  | callExpression => .callExpression
  | instantiationExpression => .instantiationExpression
  | parenthesizedExpression => .parenthesizedExpression
  | unaryExpression => .unaryExpression
  | string => .string
  | thisType => .thisType
  | interfaceBody => .interfaceBody
  | requiredParameter => .requiredParameter
  | optionalParameter => .optionalParameter

/-- Guises that only single words have. -/
def isWord (guise : Guise) : Bool :=
  [identifier, propertyIdentifier, shorthandPropertyIdentifier,
    shorthandPropertyIdentifierPattern, typeIdentifier, statementIdentifier].contains guise

end Guise

/-- The part that a node plays within its parent. -/
inductive Label where
  | name | value | body | parameter | parameters | function | arguments | pattern | declaration
  | source | alias | openTag | key | left
deriving DecidableEq, Hashable, Repr

end Restack.Script
