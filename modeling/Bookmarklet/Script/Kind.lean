import Bookmarklet.Script.Terminal

/-!
# Kinds of syntax tree nodes

A node of the tree is a construct of the language, a named token, a token that stands for itself (`Kind.token`) or
an error. `Field` names the part that a child plays in its parent.
-/

namespace Bookmarklet.Script

/-- What a node of the syntax tree is. -/
inductive Kind where
  | program | exportStatement | namespaceExport | exportClause | exportSpecifier | dynamicImport
  | importStatement | importClause | namespaceImport | namedImports | importSpecifier | importAttribute
  | expressionStatement | variableDeclaration | lexicalDeclaration | variableDeclarator | statementBlock
  | elseClause | ifStatement | switchStatement | forStatement | forInStatement | whileStatement | doStatement
  | tryStatement | withStatement | breakStatement | continueStatement | debuggerStatement | returnStatement
  | throwStatement | emptyStatement | labeledStatement | switchBody | switchCase | switchDefault | catchClause
  | finallyClause | parenthesizedExpression | yieldExpression | object | objectPattern | assignmentPattern
  | objectAssignmentPattern | array | arrayPattern | jsxElement | jsxExpression | jsxOpeningElement
  | memberExpression | jsxNamespaceName | jsxClosingElement | jsxSelfClosingElement | jsxAttribute | string
  | classExpression | classDeclaration | classHeritage | functionExpression | functionDeclaration
  | generatorFunction | generatorFunctionDeclaration | arrowFunction | callExpression | newExpression
  | awaitExpression | subscriptExpression | assignmentExpression | augmentedAssignmentExpression
  | spreadElement | ternaryExpression | binaryExpression | unaryExpression | updateExpression
  | sequenceExpression | templateString | templateSubstitution | regex | metaProperty | arguments | decorator
  | classBody | fieldDefinition | formalParameters | classStaticBlock | restPattern | methodDefinition | pair
  | pairPattern | computedPropertyName | identifier | propertyIdentifier | statementIdentifier
  | shorthandPropertyIdentifier | shorthandPropertyIdentifierPattern | hashBangLine | htmlCharacterReference
  | stringFragment | optionalChain | escapeSequence | comment | regexPattern | regexFlags | number
  | privatePropertyIdentifier | thisRef | superRef | trueLiteral | falseLiteral | nullLiteral | undefinedRef
  | htmlComment | jsxText | error
  /-- A token known by its spelling alone. -/
  | token (terminal : Terminal)
  deriving DecidableEq, Inhabited

/-- The part that a child plays in its parent. -/
inductive Field where
  | alias | alternative | argument | arguments | attribute | body | closeTag | condition | consequence
  | constructee | declaration | decorator | finalizer | flags | callee | handler | increment | index
  | initializer | key | kind | label | left | member | name | object | openTag | operator | optionalChain
  | parameter | parameters | pattern | property | right | source | value
  deriving DecidableEq

namespace Kind

/-- The name of a kind, as error messages quote it. -/
def name : Kind → String
  | .program => "program"
  | .exportStatement => "export_statement"
  | .namespaceExport => "namespace_export"
  | .exportClause => "export_clause"
  | .exportSpecifier => "export_specifier"
  | .dynamicImport => "import"
  | .importStatement => "import_statement"
  | .importClause => "import_clause"
  | .namespaceImport => "namespace_import"
  | .namedImports => "named_imports"
  | .importSpecifier => "import_specifier"
  | .importAttribute => "import_attribute"
  | .expressionStatement => "expression_statement"
  | .variableDeclaration => "variable_declaration"
  | .lexicalDeclaration => "lexical_declaration"
  | .variableDeclarator => "variable_declarator"
  | .statementBlock => "statement_block"
  | .elseClause => "else_clause"
  | .ifStatement => "if_statement"
  | .switchStatement => "switch_statement"
  | .forStatement => "for_statement"
  | .forInStatement => "for_in_statement"
  | .whileStatement => "while_statement"
  | .doStatement => "do_statement"
  | .tryStatement => "try_statement"
  | .withStatement => "with_statement"
  | .breakStatement => "break_statement"
  | .continueStatement => "continue_statement"
  | .debuggerStatement => "debugger_statement"
  | .returnStatement => "return_statement"
  | .throwStatement => "throw_statement"
  | .emptyStatement => "empty_statement"
  | .labeledStatement => "labeled_statement"
  | .switchBody => "switch_body"
  | .switchCase => "switch_case"
  | .switchDefault => "switch_default"
  | .catchClause => "catch_clause"
  | .finallyClause => "finally_clause"
  | .parenthesizedExpression => "parenthesized_expression"
  | .yieldExpression => "yield_expression"
  | .object => "object"
  | .objectPattern => "object_pattern"
  | .assignmentPattern => "assignment_pattern"
  | .objectAssignmentPattern => "object_assignment_pattern"
  | .array => "array"
  | .arrayPattern => "array_pattern"
  | .jsxElement => "jsx_element"
  | .jsxExpression => "jsx_expression"
  | .jsxOpeningElement => "jsx_opening_element"
  | .memberExpression => "member_expression"
  | .jsxNamespaceName => "jsx_namespace_name"
  | .jsxClosingElement => "jsx_closing_element"
  | .jsxSelfClosingElement => "jsx_self_closing_element"
  | .jsxAttribute => "jsx_attribute"
  | .string => "string"
  | .classExpression => "class"
  | .classDeclaration => "class_declaration"
  | .classHeritage => "class_heritage"
  | .functionExpression => "function_expression"
  | .functionDeclaration => "function_declaration"
  | .generatorFunction => "generator_function"
  | .generatorFunctionDeclaration => "generator_function_declaration"
  | .arrowFunction => "arrow_function"
  | .callExpression => "call_expression"
  | .newExpression => "new_expression"
  | .awaitExpression => "await_expression"
  | .subscriptExpression => "subscript_expression"
  | .assignmentExpression => "assignment_expression"
  | .augmentedAssignmentExpression => "augmented_assignment_expression"
  | .spreadElement => "spread_element"
  | .ternaryExpression => "ternary_expression"
  | .binaryExpression => "binary_expression"
  | .unaryExpression => "unary_expression"
  | .updateExpression => "update_expression"
  | .sequenceExpression => "sequence_expression"
  | .templateString => "template_string"
  | .templateSubstitution => "template_substitution"
  | .regex => "regex"
  | .metaProperty => "meta_property"
  | .arguments => "arguments"
  | .decorator => "decorator"
  | .classBody => "class_body"
  | .fieldDefinition => "field_definition"
  | .formalParameters => "formal_parameters"
  | .classStaticBlock => "class_static_block"
  | .restPattern => "rest_pattern"
  | .methodDefinition => "method_definition"
  | .pair => "pair"
  | .pairPattern => "pair_pattern"
  | .computedPropertyName => "computed_property_name"
  | .identifier => "identifier"
  | .propertyIdentifier => "property_identifier"
  | .statementIdentifier => "statement_identifier"
  | .shorthandPropertyIdentifier => "shorthand_property_identifier"
  | .shorthandPropertyIdentifierPattern => "shorthand_property_identifier_pattern"
  | .hashBangLine => "hash_bang_line"
  | .htmlCharacterReference => "html_character_reference"
  | .stringFragment => "string_fragment"
  | .optionalChain => "optional_chain"
  | .escapeSequence => "escape_sequence"
  | .comment => "comment"
  | .regexPattern => "regex_pattern"
  | .regexFlags => "regex_flags"
  | .number => "number"
  | .privatePropertyIdentifier => "private_property_identifier"
  | .thisRef => "this"
  | .superRef => "super"
  | .trueLiteral => "true"
  | .falseLiteral => "false"
  | .nullLiteral => "null"
  | .undefinedRef => "undefined"
  | .htmlComment => "html_comment"
  | .jsxText => "jsx_text"
  | .error => "ERROR"
  | .token .staticGet => "static get"
  | .token t => t.spelling?.getD ""

/-- Constructs and named tokens, as opposed to tokens known by their spelling. -/
def isNamed : Kind → Bool
  | .token _ => false
  | _ => true

/-- Kinds that carry no meaning for the program. -/
def isComment : Kind → Bool
  | .comment | .htmlComment | .hashBangLine => true
  | _ => false

/-- Nodes of markup embedded in a script. -/
def isMarkup : Kind → Bool
  | .jsxElement | .jsxExpression | .jsxOpeningElement | .jsxNamespaceName | .jsxClosingElement
  | .jsxSelfClosingElement | .jsxAttribute | .jsxText => true
  | _ => false

/-- Functions of every form. -/
def isFunction : Kind → Bool
  | .functionDeclaration | .functionExpression | .generatorFunction | .generatorFunctionDeclaration
  | .arrowFunction | .methodDefinition => true
  | _ => false

/-- Classes, declared or as expressions. -/
def isClass : Kind → Bool
  | .classExpression | .classDeclaration => true
  | _ => false

/-- Loops of every form. -/
def isLoop : Kind → Bool
  | .forStatement | .forInStatement | .whileStatement | .doStatement => true
  | _ => false

end Kind

/-- The kind under which a terminal appears in the tree; `none` for a terminator that only a line break implies. -/
def Terminal.kind? : Terminal → Option Kind
  | .endOfInput | .automaticSemicolon => none
  | .jsxIdentifier => some .identifier
  | .jsxDoubleFragment | .jsxSingleFragment | .doubleFragment | .singleFragment | .templateChars =>
    some .stringFragment
  | .identifier => some .identifier
  | .hashBangLine => some .hashBangLine
  | .htmlCharacterReference => some .htmlCharacterReference
  | .optionalChain => some .optionalChain
  | .escapeSequence => some .escapeSequence
  | .comment => some .comment
  | .regexPattern => some .regexPattern
  | .regexFlags => some .regexFlags
  | .number => some .number
  | .privatePropertyIdentifier => some .privatePropertyIdentifier
  | .thisRef => some .thisRef
  | .superRef => some .superRef
  | .trueLiteral => some .trueLiteral
  | .falseLiteral => some .falseLiteral
  | .nullLiteral => some .nullLiteral
  | .undefinedRef => some .undefinedRef
  | .htmlComment => some .htmlComment
  | .jsxText => some .jsxText
  | t => some (.token t)

end Bookmarklet.Script
