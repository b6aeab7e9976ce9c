import Bookmarklet.Script.Grammar.Nonterminal

/-!
# Shapes of reductions

A reduction wraps the top of the parse stack into one node. Its shape says which of the wrapped children are seen
under another kind (`aliases`) and which part each of them plays (`fields`), both by position among the children
that are not comments.
-/

namespace Bookmarklet.Script.Grammar

/-- How a node presents its children. -/
structure Shape where
  aliases : List (Nat × Kind)
  fields : List (Nat × Field)
  deriving DecidableEq, Inhabited

namespace Shape

/-- Children under their own kinds, playing no named part. -/
def plain : Shape := ⟨[], []⟩

/-- The kind under which the child at a position is seen, if not its own. -/
def alias? (s : Shape) (position : Nat) : Option Kind := s.aliases.lookup position

/-- The part that the child at a position plays. -/
def field? (s : Shape) (position : Nat) : Option Field := s.fields.lookup position

end Shape

/-- The end of a construct: its nonterminal, how many symbols it takes from the stack, the preference it adds where
several readings of one text remain, and its shape. -/
structure Reduction where
  result : Nonterminal
  width : Nat
  preference : Int
  shape : Shape
  deriving Inhabited

/-- The reductions, in pages of sixteen. -/
def reductions : List (List Reduction) := [
  [⟨.program, 0, 0, .plain⟩,
   ⟨.programRepeat, 2, 0, .plain⟩,
   ⟨.switchDefault, 2, 0, .plain⟩,
   ⟨.switchDefault, 3, 0, ⟨[], [(2, .body)]⟩⟩,
   ⟨.switchCase, 3, 0, ⟨[], [(1, .value)]⟩⟩,
   ⟨.switchCase, 4, 0, ⟨[], [(1, .value), (3, .body)]⟩⟩,
   ⟨.program, 1, 0, .plain⟩,
   ⟨.program, 2, 0, .plain⟩,
   ⟨.yieldExpression, 1, 0, .plain⟩,
   ⟨.statementBlock, 2, 0, .plain⟩,
   ⟨.object, 2, 0, .plain⟩,
   ⟨.objectPattern, 2, 0, .plain⟩,
   ⟨.classBody, 2, 0, .plain⟩,
   ⟨.classBody, 3, 0, .plain⟩,
   ⟨.statementBlock, 3, 0, .plain⟩,
   ⟨.statementBlock, 4, 0, .plain⟩],
  [⟨.classDeclaration, 3, 0, ⟨[], [(1, .name), (2, .body)]⟩⟩,
   ⟨.classExpression, 3, 0, ⟨[], [(1, .name), (2, .body)]⟩⟩,
   ⟨.classDeclaration, 4, 0, ⟨[], [(1, .name), (3, .body)]⟩⟩,
   ⟨.classExpression, 4, 0, ⟨[], [(1, .name), (3, .body)]⟩⟩,
   ⟨.functionDeclaration, 4, 0, ⟨[], [(1, .name), (2, .parameters), (3, .body)]⟩⟩,
   ⟨.functionExpression, 4, 0, ⟨[], [(1, .name), (2, .parameters), (3, .body)]⟩⟩,
   ⟨.classDeclaration, 4, 0, ⟨[], [(2, .name), (3, .body)]⟩⟩,
   ⟨.classExpression, 4, 0, ⟨[], [(2, .name), (3, .body)]⟩⟩,
   ⟨.functionDeclaration, 5, 0, ⟨[], [(2, .name), (3, .parameters), (4, .body)]⟩⟩,
   ⟨.functionExpression, 5, 0, ⟨[], [(2, .name), (3, .parameters), (4, .body)]⟩⟩,
   ⟨.generatorFunctionDeclaration, 5, 0, ⟨[], [(2, .name), (3, .parameters), (4, .body)]⟩⟩,
   ⟨.generatorFunction, 5, 0, ⟨[], [(2, .name), (3, .parameters), (4, .body)]⟩⟩,
   ⟨.classDeclaration, 5, 0, ⟨[], [(2, .name), (4, .body)]⟩⟩,
   ⟨.classExpression, 5, 0, ⟨[], [(2, .name), (4, .body)]⟩⟩,
   ⟨.generatorFunctionDeclaration, 6, 0, ⟨[], [(3, .name), (4, .parameters), (5, .body)]⟩⟩,
   ⟨.generatorFunction, 6, 0, ⟨[], [(3, .name), (4, .parameters), (5, .body)]⟩⟩],
  [⟨.arrayRepeat, 1, 0, .plain⟩,
   ⟨.arrayPatternRepeat, 1, 0, .plain⟩,
   ⟨.primaryExpression, 1, 0, ⟨[(0, .identifier)], []⟩⟩,
   ⟨.propertyName, 1, 0, ⟨[(0, .propertyIdentifier)], []⟩⟩,
   ⟨.augmentedAssignmentLhs, 1, 0, ⟨[(0, .identifier)], []⟩⟩,
   ⟨.pattern, 1, -1, ⟨[(0, .identifier)], []⟩⟩,
   ⟨.tryStatement, 2, 0, ⟨[], [(1, .body)]⟩⟩,
   ⟨.restPattern, 2, 0, ⟨[(1, .identifier)], []⟩⟩,
   ⟨.tryStatement, 3, 0, ⟨[], [(1, .body), (2, .handler)]⟩⟩,
   ⟨.emptyStatement, 1, 0, .plain⟩,
   ⟨.ifStatement, 3, 0, ⟨[], [(1, .condition), (2, .consequence)]⟩⟩,
   ⟨.doStatement, 4, 0, ⟨[], [(1, .body), (3, .condition)]⟩⟩,
   ⟨.catchClause, 2, 0, ⟨[], [(1, .body)]⟩⟩,
   ⟨.catchClause, 5, 0, ⟨[], [(2, .parameter), (4, .body)]⟩⟩,
   ⟨.parenthesizedExpression, 3, 0, .plain⟩,
   ⟨.statement, 1, 0, .plain⟩],
  [⟨.declaration, 1, 0, .plain⟩,
   ⟨.exportStatement, 2, 0, ⟨[], [(1, .declaration)]⟩⟩,
   ⟨.breakStatement, 2, 0, .plain⟩,
   ⟨.continueStatement, 2, 0, .plain⟩,
   ⟨.debuggerStatement, 2, 0, .plain⟩,
   ⟨.returnStatement, 2, 0, .plain⟩,
   ⟨.expressionStatement, 2, 0, .plain⟩,
   ⟨.exportStatement, 3, 0, ⟨[], [(2, .declaration)]⟩⟩,
   ⟨.labeledStatement, 3, -1, ⟨[(0, .statementIdentifier)], [(0, .label), (2, .body)]⟩⟩,
   ⟨.exportStatement, 3, 0, .plain⟩,
   ⟨.importStatement, 3, 0, ⟨[], [(1, .source)]⟩⟩,
   ⟨.withStatement, 3, 0, ⟨[], [(1, .object), (2, .body)]⟩⟩,
   ⟨.variableDeclaration, 3, 0, .plain⟩,
   ⟨.lexicalDeclaration, 3, 0, ⟨[], [(0, .kind)]⟩⟩,
   ⟨.switchStatement, 3, 0, ⟨[], [(1, .value), (2, .body)]⟩⟩,
   ⟨.forInStatement, 3, 0, ⟨[], [(2, .body)]⟩⟩],
  [⟨.whileStatement, 3, 0, ⟨[], [(1, .condition), (2, .body)]⟩⟩,
   ⟨.tryStatement, 3, 0, ⟨[], [(1, .body), (2, .finalizer)]⟩⟩,
   ⟨.breakStatement, 3, 0, ⟨[(1, .statementIdentifier)], [(1, .label)]⟩⟩,
   ⟨.continueStatement, 3, 0, ⟨[(1, .statementIdentifier)], [(1, .label)]⟩⟩,
   ⟨.returnStatement, 3, 0, .plain⟩,
   ⟨.throwStatement, 3, 0, .plain⟩,
   ⟨.exportStatement, 4, 0, .plain⟩,
   ⟨.exportStatement, 4, 0, ⟨[], [(2, .value)]⟩⟩,
   ⟨.importStatement, 4, 0, .plain⟩,
   ⟨.importStatement, 4, 0, ⟨[], [(1, .source)]⟩⟩,
   ⟨.variableDeclaration, 4, 0, .plain⟩,
   ⟨.lexicalDeclaration, 4, 0, ⟨[], [(0, .kind)]⟩⟩,
   ⟨.ifStatement, 4, 0, ⟨[], [(1, .condition), (2, .consequence), (3, .alternative)]⟩⟩,
   ⟨.switchBody, 2, 0, .plain⟩,
   ⟨.forInStatement, 4, 0, ⟨[], [(3, .body)]⟩⟩,
   ⟨.finallyClause, 2, 0, ⟨[], [(1, .body)]⟩⟩],
  [⟨.tryStatement, 4, 0, ⟨[], [(1, .body), (2, .handler), (3, .finalizer)]⟩⟩,
   ⟨.classDeclaration, 4, 0, ⟨[], [(1, .name), (2, .body)]⟩⟩,
   ⟨.exportStatement, 4, 0, ⟨[], [(3, .declaration)]⟩⟩,
   ⟨.importStatement, 5, 0, .plain⟩,
   ⟨.elseClause, 2, 0, .plain⟩,
   ⟨.switchBody, 3, 0, .plain⟩,
   ⟨.doStatement, 5, 0, ⟨[], [(1, .body), (3, .condition)]⟩⟩,
   ⟨.classDeclaration, 5, 0, ⟨[], [(1, .name), (3, .body)]⟩⟩,
   ⟨.functionDeclaration, 5, 0, ⟨[], [(1, .name), (2, .parameters), (3, .body)]⟩⟩,
   ⟨.exportStatement, 5, 0, ⟨[], [(3, .value)]⟩⟩,
   ⟨.classDeclaration, 5, 0, ⟨[], [(2, .name), (3, .body)]⟩⟩,
   ⟨.forStatement, 6, 0, ⟨[], [(2, .initializer), (3, .condition), (5, .body)]⟩⟩,
   ⟨.functionDeclaration, 6, 0, ⟨[], [(2, .name), (3, .parameters), (4, .body)]⟩⟩,
   ⟨.generatorFunctionDeclaration, 6, 0, ⟨[], [(2, .name), (3, .parameters), (4, .body)]⟩⟩,
   ⟨.classDeclaration, 6, 0, ⟨[], [(2, .name), (4, .body)]⟩⟩,
   ⟨.forStatement, 7, 0, ⟨[], [(2, .initializer), (3, .condition), (4, .increment), (6, .body)]⟩⟩],
  [⟨.forStatement, 7, 0, ⟨[], [(2, .initializer), (3, .condition), (4, .condition), (6, .body)]⟩⟩,
   ⟨.forStatement, 7, 0, ⟨[], [(2, .initializer), (4, .condition), (6, .body)]⟩⟩,
   ⟨.generatorFunctionDeclaration, 7, 0, ⟨[], [(3, .name), (4, .parameters), (5, .body)]⟩⟩,
   ⟨.forStatement, 8, 0, ⟨[], [(2, .initializer), (3, .condition), (4, .condition), (5, .increment), (7, .body)]⟩⟩,
   ⟨.forStatement, 8, 0, ⟨[], [(2, .initializer), (4, .condition), (5, .increment), (7, .body)]⟩⟩,
   ⟨.forStatement, 8, 0, ⟨[], [(2, .initializer), (4, .condition), (5, .condition), (7, .body)]⟩⟩,
   ⟨.forStatement, 9, 0, ⟨[], [(2, .initializer), (4, .condition), (5, .condition), (6, .increment), (8, .body)]⟩⟩,
   ⟨.primaryExpression, 1, 0, .plain⟩,
   ⟨.augmentedAssignmentLhs, 1, 0, .plain⟩,
   ⟨.memberExpression, 3, 0, ⟨[(2, .propertyIdentifier)], [(0, .object), (2, .property)]⟩⟩,
   ⟨.memberExpression, 3, 0, ⟨[], [(0, .object), (2, .property)]⟩⟩,
   ⟨.memberExpression, 3, 0, ⟨[(2, .propertyIdentifier)], [(0, .object), (1, .optionalChain), (2, .property)]⟩⟩,
   ⟨.memberExpression, 3, 0, ⟨[], [(0, .object), (1, .optionalChain), (2, .property)]⟩⟩,
   ⟨.subscriptExpression, 4, 0, ⟨[], [(0, .object), (2, .index)]⟩⟩,
   ⟨.subscriptExpression, 5, 0, ⟨[], [(0, .object), (1, .optionalChain), (3, .index)]⟩⟩,
   ⟨.pattern, 1, -1, .plain⟩],
  [⟨.forHeader, 5, 0, ⟨[(1, .identifier)], [(1, .left), (2, .operator), (3, .right)]⟩⟩,
   ⟨.forHeader, 5, 0, ⟨[], [(1, .left), (2, .operator), (3, .right)]⟩⟩,
   ⟨.forHeader, 6, 0, ⟨[], [(1, .kind), (2, .left), (3, .operator), (4, .right)]⟩⟩,
   ⟨.forHeader, 7, 0, ⟨[], [(1, .kind), (2, .left), (4, .operator), (5, .right)]⟩⟩,
   ⟨.restPattern, 2, 0, .plain⟩,
   ⟨.newExpression, 2, 0, ⟨[], [(1, .constructee)]⟩⟩,
   ⟨.expression, 1, 0, .plain⟩,
   ⟨.awaitExpression, 2, 0, .plain⟩,
   ⟨.unaryExpression, 2, 0, ⟨[], [(0, .operator), (1, .argument)]⟩⟩,
   ⟨.updateExpression, 2, 0, ⟨[], [(0, .operator), (1, .argument)]⟩⟩,
   ⟨.array, 2, 0, .plain⟩,
   ⟨.arrayPattern, 2, 0, .plain⟩,
   ⟨.classExpression, 2, 0, ⟨[], [(1, .body)]⟩⟩,
   ⟨.templateString, 2, 0, .plain⟩,
   ⟨.callExpression, 2, 0, ⟨[], [(0, .callee), (1, .arguments)]⟩⟩,
   ⟨.updateExpression, 2, 0, ⟨[], [(0, .argument), (1, .operator)]⟩⟩],
  [⟨.jsxElement, 2, 0, ⟨[], [(0, .openTag), (1, .closeTag)]⟩⟩,
   ⟨.arrowFunction, 3, 0, ⟨[(0, .identifier)], [(0, .parameter), (2, .body)]⟩⟩,
   ⟨.object, 3, 0, ⟨[(1, .shorthandPropertyIdentifier)], []⟩⟩,
   ⟨.objectPattern, 3, 0, ⟨[(1, .shorthandPropertyIdentifierPattern)], []⟩⟩,
   ⟨.object, 3, 0, .plain⟩,
   ⟨.metaProperty, 3, 0, .plain⟩,
   ⟨.array, 3, 0, .plain⟩,
   ⟨.jsxSelfClosingElement, 3, 0, ⟨[], [(1, .name)]⟩⟩,
   ⟨.classExpression, 3, 0, ⟨[], [(2, .body)]⟩⟩,
   ⟨.functionExpression, 3, 0, ⟨[], [(1, .parameters), (2, .body)]⟩⟩,
   ⟨.newExpression, 3, 1, ⟨[], [(1, .constructee), (2, .arguments)]⟩⟩,
   ⟨.regex, 3, 0, ⟨[], [(1, .pattern)]⟩⟩,
   ⟨.templateString, 3, 0, .plain⟩,
   ⟨.arrowFunction, 3, 0, ⟨[], [(0, .parameter), (2, .body)]⟩⟩,
   ⟨.arguments, 2, 0, .plain⟩,
   ⟨.callExpression, 3, 0, ⟨[], [(0, .callee), (1, .optionalChain), (2, .arguments)]⟩⟩],
  [⟨.jsxClosingElement, 2, 0, .plain⟩,
   ⟨.jsxElement, 3, 0, ⟨[], [(0, .openTag), (2, .closeTag)]⟩⟩,
   ⟨.arrowFunction, 3, 0, ⟨[], [(0, .parameters), (2, .body)]⟩⟩,
   ⟨.object, 4, 0, ⟨[(1, .shorthandPropertyIdentifier)], []⟩⟩,
   ⟨.object, 4, 0, .plain⟩,
   ⟨.array, 4, 0, .plain⟩,
   ⟨.jsxSelfClosingElement, 4, 0, ⟨[], [(1, .name)]⟩⟩,
   ⟨.arrowFunction, 4, 0, ⟨[(1, .identifier)], [(1, .parameter), (3, .body)]⟩⟩,
   ⟨.functionExpression, 4, 0, ⟨[], [(2, .parameters), (3, .body)]⟩⟩,
   ⟨.arrowFunction, 4, 0, ⟨[], [(1, .parameter), (3, .body)]⟩⟩,
   ⟨.arrowFunction, 4, 0, ⟨[], [(1, .parameters), (3, .body)]⟩⟩,
   ⟨.generatorFunction, 4, 0, ⟨[], [(2, .parameters), (3, .body)]⟩⟩,
   ⟨.regex, 4, 0, ⟨[], [(1, .pattern), (3, .flags)]⟩⟩,
   ⟨.arguments, 3, 0, .plain⟩,
   ⟨.jsxClosingElement, 3, 0, ⟨[], [(1, .name)]⟩⟩,
   ⟨.classExpression, 4, 0, ⟨[], [(3, .body)]⟩⟩],
  [⟨.generatorFunction, 5, 0, ⟨[], [(3, .parameters), (4, .body)]⟩⟩,
   ⟨.arguments, 4, 0, .plain⟩,
   ⟨.string, 2, 0, .plain⟩,
   ⟨.string, 3, 0, .plain⟩,
   ⟨.yieldExpression, 2, 0, .plain⟩,
   ⟨.assignmentExpression, 3, 0, ⟨[(0, .identifier)], [(0, .left), (2, .right)]⟩⟩,
   ⟨.yieldExpression, 3, 0, .plain⟩,
   ⟨.assignmentExpression, 3, 0, ⟨[], [(0, .left), (2, .right)]⟩⟩,
   ⟨.binaryExpression, 3, 0, ⟨[], [(0, .left), (1, .operator), (2, .right)]⟩⟩,
   ⟨.augmentedAssignmentExpression, 3, 0, ⟨[], [(0, .left), (1, .operator), (2, .right)]⟩⟩,
   ⟨.ternaryExpression, 5, 0, ⟨[], [(0, .condition), (2, .consequence), (4, .alternative)]⟩⟩,
   ⟨.sequenceExpressionRepeat, 2, 0, .plain⟩,
   ⟨.propertyName, 1, 0, .plain⟩,
   ⟨.spreadElement, 2, 0, .plain⟩,
   ⟨.objectAssignmentPattern, 3, 0, ⟨[(0, .shorthandPropertyIdentifierPattern)], [(0, .left), (2, .right)]⟩⟩,
   ⟨.computedPropertyName, 3, 0, .plain⟩],
  [⟨.objectAssignmentPattern, 3, 0, ⟨[], [(0, .left), (2, .right)]⟩⟩,
   ⟨.assignmentPattern, 3, 0, ⟨[], [(0, .left), (2, .right)]⟩⟩,
   ⟨.initializer, 2, 0, ⟨[], [(1, .value)]⟩⟩,
   ⟨.arrayRepeat, 2, 0, .plain⟩,
   ⟨.pair, 3, 0, ⟨[], [(0, .key), (2, .value)]⟩⟩,
   ⟨.classHeritage, 2, 0, .plain⟩,
   ⟨.objectRepeat, 1, 0, .plain⟩,
   ⟨.objectPatternRepeat, 1, 0, .plain⟩,
   ⟨.classBodyRepeat, 2, 0, .plain⟩,
   ⟨.objectRepeat, 2, 0, ⟨[(1, .shorthandPropertyIdentifier)], []⟩⟩,
   ⟨.objectPatternRepeat, 2, 0, ⟨[(1, .shorthandPropertyIdentifierPattern)], []⟩⟩,
   ⟨.decorator, 2, 0, .plain⟩,
   ⟨.exportStatementRepeat, 2, 0, .plain⟩,
   ⟨.methodDefinition, 3, 0, ⟨[], [(0, .name), (1, .parameters), (2, .body)]⟩⟩,
   ⟨.decoratorMemberExpression, 3, 0, ⟨[(2, .propertyIdentifier)], [(0, .object), (2, .property)]⟩⟩,
   ⟨.methodDefinition, 4, 0, ⟨[], [(1, .name), (2, .parameters), (3, .body)]⟩⟩],
  [⟨.methodDefinition, 5, 0, ⟨[], [(2, .name), (3, .parameters), (4, .body)]⟩⟩,
   ⟨.methodDefinition, 6, 0, ⟨[], [(3, .name), (4, .parameters), (5, .body)]⟩⟩,
   ⟨.methodDefinition, 7, 0, ⟨[], [(4, .name), (5, .parameters), (6, .body)]⟩⟩,
   ⟨.classBodyRepeat, 1, 0, ⟨[], [(0, .member)]⟩⟩,
   ⟨.classStaticBlock, 2, 0, ⟨[], [(1, .body)]⟩⟩,
   ⟨.classBodyRepeat, 2, 0, ⟨[], [(0, .member)]⟩⟩,
   ⟨.classStaticBlock, 3, 0, ⟨[], [(2, .body)]⟩⟩,
   ⟨.exportStatementRepeat, 1, 0, ⟨[], [(0, .decorator)]⟩⟩,
   ⟨.decoratorCallExpression, 2, 0, ⟨[], [(0, .callee), (1, .arguments)]⟩⟩,
   ⟨.dynamicImport, 1, 0, .plain⟩,
   ⟨.jsxElementRepeat, 2, 0, .plain⟩,
   ⟨.jsxOpeningElementRepeat, 2, 0, .plain⟩,
   ⟨.objectPattern, 3, 0, .plain⟩,
   ⟨.arrayPattern, 3, 0, .plain⟩,
   ⟨.jsxAttribute, 1, 0, ⟨[(0, .propertyIdentifier)], []⟩⟩,
   ⟨.objectPattern, 4, 0, ⟨[(1, .shorthandPropertyIdentifierPattern)], []⟩⟩],
  [⟨.objectPattern, 4, 0, .plain⟩,
   ⟨.variableDeclarator, 1, 0, ⟨[], [(0, .name)]⟩⟩,
   ⟨.arrayPattern, 4, 0, .plain⟩,
   ⟨.sequenceExpression, 2, 0, .plain⟩,
   ⟨.jsxAttribute, 1, 0, .plain⟩,
   ⟨.fieldDefinition, 1, 0, ⟨[], [(0, .property)]⟩⟩,
   ⟨.templateStringRepeat, 2, 0, .plain⟩,
   ⟨.jsxNamespaceName, 3, 0, .plain⟩,
   ⟨.nestedIdentifier, 3, 0, ⟨[(2, .propertyIdentifier)], [(0, .object), (2, .property)]⟩⟩,
   ⟨.fieldDefinition, 2, 0, ⟨[], [(1, .property)]⟩⟩,
   ⟨.switchBodyRepeat, 2, 0, .plain⟩,
   ⟨.fieldDefinition, 3, 0, ⟨[], [(2, .property)]⟩⟩,
   ⟨.jsxOpeningElement, 2, -1, .plain⟩,
   ⟨.jsxOpeningElement, 3, -1, ⟨[], [(1, .name)]⟩⟩,
   ⟨.jsxOpeningElementRepeat, 1, 0, ⟨[], [(0, .attribute)]⟩⟩,
   ⟨.jsxExpression, 2, 0, .plain⟩],
  [⟨.jsxOpeningElement, 4, -1, ⟨[], [(1, .name)]⟩⟩,
   ⟨.jsxExpression, 3, 0, .plain⟩,
   ⟨.variableDeclarator, 2, 0, ⟨[], [(0, .name)]⟩⟩,
   ⟨.jsxAttribute, 3, 0, ⟨[(0, .propertyIdentifier)], []⟩⟩,
   ⟨.jsxAttribute, 3, 0, .plain⟩,
   ⟨.jsxString, 2, 0, .plain⟩,
   ⟨.jsxString, 3, 0, .plain⟩,
   ⟨.stringDoubleRepeat, 2, 0, .plain⟩,
   ⟨.stringSingleRepeat, 2, 0, .plain⟩,
   ⟨.variableDeclarationRepeat, 2, 0, .plain⟩,
   ⟨.templateSubstitution, 3, 0, .plain⟩,
   ⟨.jsxStringDoubleRepeat, 2, 0, .plain⟩,
   ⟨.jsxStringSingleRepeat, 2, 0, .plain⟩,
   ⟨.exportClause, 2, 0, .plain⟩,
   ⟨.exportSpecifier, 1, 0, ⟨[], [(0, .name)]⟩⟩,
   ⟨.objectRepeat, 2, 0, .plain⟩],
  [⟨.objectPatternRepeat, 2, 0, .plain⟩,
   ⟨.moduleExportName, 1, 0, .plain⟩,
   ⟨.importSpecifier, 1, 0, ⟨[], [(0, .name)]⟩⟩,
   ⟨.arrayPatternRepeat, 2, 0, .plain⟩,
   ⟨.fromClause, 2, 0, ⟨[], [(1, .source)]⟩⟩,
   ⟨.exportClause, 3, 0, .plain⟩,
   ⟨.pairPattern, 3, 0, ⟨[], [(0, .key), (2, .value)]⟩⟩,
   ⟨.formalParametersRepeat, 2, 0, .plain⟩,
   ⟨.exportClause, 4, 0, .plain⟩,
   ⟨.exportClauseRepeat, 2, 0, .plain⟩,
   ⟨.namedImportsRepeat, 2, 0, .plain⟩,
   ⟨.exportClause, 5, 0, .plain⟩,
   ⟨.importClause, 1, 0, .plain⟩,
   ⟨.formalParameters, 2, 0, .plain⟩,
   ⟨.formalParameters, 3, 0, .plain⟩,
   ⟨.importAttribute, 2, 0, .plain⟩],
  [⟨.formalParameters, 4, 0, .plain⟩,
   ⟨.fieldDefinition, 2, 0, ⟨[], [(0, .property)]⟩⟩,
   ⟨.exportSpecifier, 3, 0, ⟨[], [(0, .name), (2, .alias)]⟩⟩,
   ⟨.importSpecifier, 3, 0, ⟨[], [(0, .name), (2, .alias)]⟩⟩,
   ⟨.formalParameters, 5, 0, .plain⟩,
   ⟨.fieldDefinition, 3, 0, ⟨[], [(1, .property)]⟩⟩,
   ⟨.fieldDefinition, 4, 0, ⟨[], [(2, .property)]⟩⟩,
   ⟨.namedImports, 2, 0, .plain⟩,
   ⟨.namespaceExport, 3, 0, .plain⟩,
   ⟨.namespaceImport, 3, 0, .plain⟩,
   ⟨.namedImports, 3, 0, .plain⟩,
   ⟨.importClause, 3, 0, .plain⟩,
   ⟨.namedImports, 4, 0, .plain⟩,
   ⟨.namedImports, 5, 0, .plain⟩]]

end Bookmarklet.Script.Grammar
