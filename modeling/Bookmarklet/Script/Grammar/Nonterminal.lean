import Bookmarklet.Script.Kind

/-!
# Nonterminals of the grammar

In the order in which the parse tables number them. Some only group alternatives or repeat an item
(`programRepeat` is one or more statements); these leave no node of their own in the tree (`kind?`).
-/

namespace Bookmarklet.Script.Grammar

/-- The constructs that the parser reduces to. -/
inductive Nonterminal where
  | program | exportStatement | namespaceExport | exportClause | exportSpecifier | moduleExportName
  | declaration | dynamicImport | importStatement | importClause | fromClause | namespaceImport | namedImports
  | importSpecifier | importAttribute | statement | expressionStatement | variableDeclaration
  | lexicalDeclaration | variableDeclarator | statementBlock | elseClause | ifStatement | switchStatement
  | forStatement | forInStatement | forHeader | whileStatement | doStatement | tryStatement | withStatement
  | breakStatement | continueStatement | debuggerStatement | returnStatement | throwStatement | emptyStatement
  | labeledStatement | switchBody | switchCase | switchDefault | catchClause | finallyClause
  | parenthesizedExpression | expression | primaryExpression | yieldExpression | object | objectPattern
  | assignmentPattern | objectAssignmentPattern | array | arrayPattern | jsxElement | jsxExpression
  | jsxOpeningElement | nestedIdentifier | jsxNamespaceName | jsxClosingElement | jsxSelfClosingElement
  | jsxAttribute | jsxString | classExpression | classDeclaration | classHeritage | functionExpression
  | functionDeclaration | generatorFunction | generatorFunctionDeclaration | arrowFunction | callExpression
  | newExpression | awaitExpression | memberExpression | subscriptExpression | assignmentExpression
  | augmentedAssignmentLhs | augmentedAssignmentExpression | initializer | destructuringPattern | spreadElement
  | ternaryExpression | binaryExpression | unaryExpression | updateExpression | sequenceExpression | string
  | templateString | templateSubstitution | regex | metaProperty | arguments | decorator
  | decoratorMemberExpression | decoratorCallExpression | classBody | fieldDefinition | formalParameters
  | classStaticBlock | pattern | restPattern | methodDefinition | pair | pairPattern | propertyName
  | computedPropertyName | programRepeat | exportStatementRepeat | exportClauseRepeat | namedImportsRepeat
  | variableDeclarationRepeat | switchBodyRepeat | objectRepeat | objectPatternRepeat | arrayRepeat
  | arrayPatternRepeat | jsxElementRepeat | jsxOpeningElementRepeat | jsxStringDoubleRepeat
  | jsxStringSingleRepeat | sequenceExpressionRepeat | stringDoubleRepeat | stringSingleRepeat
  | templateStringRepeat | classBodyRepeat | formalParametersRepeat
  deriving DecidableEq, Inhabited

namespace Nonterminal

/-- The number that the parse tables give to a nonterminal. -/
def index (n : Nonterminal) : Nat := n.ctorIdx

/-- The kind of node that a nonterminal leaves in the tree, if any. -/
def kind? : Nonterminal → Option Kind
  | .program => some .program
  | .exportStatement => some .exportStatement
  | .namespaceExport => some .namespaceExport
  | .exportClause => some .exportClause
  | .exportSpecifier => some .exportSpecifier
  | .dynamicImport => some .dynamicImport
  | .importStatement => some .importStatement
  | .importClause => some .importClause
  | .namespaceImport => some .namespaceImport
  | .namedImports => some .namedImports
  | .importSpecifier => some .importSpecifier
  | .importAttribute => some .importAttribute
  | .expressionStatement => some .expressionStatement
  | .variableDeclaration => some .variableDeclaration
  | .lexicalDeclaration => some .lexicalDeclaration
  | .variableDeclarator => some .variableDeclarator
  | .statementBlock => some .statementBlock
  | .elseClause => some .elseClause
  | .ifStatement => some .ifStatement
  | .switchStatement => some .switchStatement
  | .forStatement => some .forStatement
  | .forInStatement => some .forInStatement
  | .whileStatement => some .whileStatement
  | .doStatement => some .doStatement
  | .tryStatement => some .tryStatement
  | .withStatement => some .withStatement
  | .breakStatement => some .breakStatement
  | .continueStatement => some .continueStatement
  | .debuggerStatement => some .debuggerStatement
  | .returnStatement => some .returnStatement
  | .throwStatement => some .throwStatement
  | .emptyStatement => some .emptyStatement
  | .labeledStatement => some .labeledStatement
  | .switchBody => some .switchBody
  | .switchCase => some .switchCase
  | .switchDefault => some .switchDefault
  | .catchClause => some .catchClause
  | .finallyClause => some .finallyClause
  | .parenthesizedExpression => some .parenthesizedExpression
  | .yieldExpression => some .yieldExpression
  | .object => some .object
  | .objectPattern => some .objectPattern
  | .assignmentPattern => some .assignmentPattern
  | .objectAssignmentPattern => some .objectAssignmentPattern
  | .array => some .array
  | .arrayPattern => some .arrayPattern
  | .jsxElement => some .jsxElement
  | .jsxExpression => some .jsxExpression
  | .jsxOpeningElement => some .jsxOpeningElement
  | .nestedIdentifier => some .memberExpression
  | .jsxNamespaceName => some .jsxNamespaceName
  | .jsxClosingElement => some .jsxClosingElement
  | .jsxSelfClosingElement => some .jsxSelfClosingElement
  | .jsxAttribute => some .jsxAttribute
  | .jsxString => some .string
  | .classExpression => some .classExpression
  | .classDeclaration => some .classDeclaration
  | .classHeritage => some .classHeritage
  | .functionExpression => some .functionExpression
  | .functionDeclaration => some .functionDeclaration
  | .generatorFunction => some .generatorFunction
  | .generatorFunctionDeclaration => some .generatorFunctionDeclaration
  | .arrowFunction => some .arrowFunction
  | .callExpression => some .callExpression
  | .newExpression => some .newExpression
  | .awaitExpression => some .awaitExpression
  | .memberExpression => some .memberExpression
  | .subscriptExpression => some .subscriptExpression
  | .assignmentExpression => some .assignmentExpression
  | .augmentedAssignmentExpression => some .augmentedAssignmentExpression
  | .spreadElement => some .spreadElement
  | .ternaryExpression => some .ternaryExpression
  | .binaryExpression => some .binaryExpression
  | .unaryExpression => some .unaryExpression
  | .updateExpression => some .updateExpression
  | .sequenceExpression => some .sequenceExpression
  | .string => some .string
  | .templateString => some .templateString
  | .templateSubstitution => some .templateSubstitution
  | .regex => some .regex
  | .metaProperty => some .metaProperty
  | .arguments => some .arguments
  | .decorator => some .decorator
  | .decoratorMemberExpression => some .memberExpression
  | .decoratorCallExpression => some .callExpression
  | .classBody => some .classBody
  | .fieldDefinition => some .fieldDefinition
  | .formalParameters => some .formalParameters
  | .classStaticBlock => some .classStaticBlock
  | .restPattern => some .restPattern
  | .methodDefinition => some .methodDefinition
  | .pair => some .pair
  | .pairPattern => some .pairPattern
  | .computedPropertyName => some .computedPropertyName
  | _ => none

end Nonterminal
end Bookmarklet.Script.Grammar
