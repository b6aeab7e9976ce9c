import Bookmarklet.Script.Tree

/-!
# Scopes

The names that patterns and declarations bind, and the rule that one scope must not declare a name twice
(`Scope.clash?`). A function body and a program bind their direct function declarations like `var`
(`Scope.ofFunction`); in any other block they are lexical (`Scope.ofBlock`).
-/

namespace Bookmarklet.Script

/-- Kinds of declarations of named functions. -/
def Kind.isFunctionDeclaration : Kind → Bool
  | .functionDeclaration | .generatorFunctionDeclaration => true
  | _ => false

namespace Tree

/-! ## Names bound by patterns -/

mutual
/-- The names that a pattern or a parameter list binds. -/
def boundNames : Tree → List (List Char)
  | leaf info text =>
    match info.kind with
    | .identifier | .shorthandPropertyIdentifierPattern => [text]
    | _ => []
  | node info children =>
    match info.kind with
    | .pairPattern => boundNamesAt .value children
    | .assignmentPattern | .objectAssignmentPattern => boundNamesAt .left children
    | .formalParameters | .objectPattern | .arrayPattern | .restPattern => boundNamesIn children
    | _ => []

/-- The names that the first of some trees to play a part binds. -/
def boundNamesAt (field : Field) : List Tree → List (List Char)
  | [] => []
  | t :: ts => if t.info.field = some field then t.boundNames else boundNamesAt field ts

/-- The names that some trees bind. -/
def boundNamesIn : List Tree → List (List Char)
  | [] => []
  | t :: ts => t.boundNames ++ boundNamesIn ts
end

/-- The names that the declarators of a declaration bind. -/
def declaredNames (t : Tree) : List (List Char) :=
  t.children.flatMap fun declarator => boundNamesAt .name declarator.children

/-- The text of the part that names a declaration. -/
def nameText (t : Tree) : List (List Char) := ((t.part? .name).map (·.text)).toList

/-! ## Names declared with `var` -/

/-- The names that a statement itself declares with `var`. -/
def ownVarNames (t : Tree) : List (List Char) :=
  match t.kind with
  | .variableDeclaration => t.declaredNames
  | .forInStatement =>
    if (t.part? .kind).any (·.kind = .token .kwVar) then boundNamesAt .left t.children else []
  | _ => []

mutual
/-- The names declared with `var` in a tree, outside functions and classes. -/
def varNames : Tree → List (List Char)
  | leaf _ _ => []
  | node info children =>
    if info.kind.isFunction || info.kind.isClass then []
    else (node info children).ownVarNames ++ varNamesIn children

/-- The names declared with `var` in some trees, outside functions and classes. -/
def varNamesIn : List Tree → List (List Char)
  | [] => []
  | t :: ts => t.varNames ++ varNamesIn ts
end

end Tree

/-! ## The names of a scope -/

/-- A lexical declaration of a name. -/
structure Binding where
  name : List Char
  /-- The name is that of a function. -/
  isFunction : Bool

/-- What a scope declares. -/
structure Scope where
  lexical : List Binding
  vars : List (List Char)

namespace Scope

/-- The lexical declarations that a statement makes with `let`, `const` or `class`. -/
def lexicalOf (statement : Tree) : List Binding :=
  match statement.kind with
  | .lexicalDeclaration => statement.declaredNames.map (⟨·, false⟩)
  | .classDeclaration => statement.nameText.map (⟨·, false⟩)
  | _ => []

/-- The scope of a program or a function body with its parameters. -/
def ofFunction (parameters : Option Tree) (statements : List Tree) : Scope where
  lexical := statements.flatMap lexicalOf
  vars :=
    ((parameters.map (·.boundNames)).getD [])
      ++ (statements.filter (·.kind.isFunctionDeclaration)).flatMap (·.nameText)
      ++ Tree.varNamesIn statements

/-- The lexical declarations of a statement in a block, where functions are lexical. -/
def lexicalInBlock (statement : Tree) : List Binding :=
  if statement.kind.isFunctionDeclaration then statement.nameText.map (⟨·, true⟩) else lexicalOf statement

/-- The scope of a block; `parameter` is what a handler catches. -/
def ofBlock (parameter : Option Tree) (statements : List Tree) : Scope where
  lexical := statements.flatMap lexicalInBlock
  vars := Tree.varNamesIn statements ++ (parameter.map (·.boundNames)).getD []

/-- The scope of the cases of a `switch`. -/
def ofCases (cases : List Tree) : Scope where
  lexical := (cases.flatMap (·.parts .body)).flatMap lexicalInBlock
  vars := Tree.varNamesIn cases

/-- Whether two lexical declarations exclude each other. Sloppy code may declare one function twice. -/
def excludes (strict : Bool) (a b : Binding) : Bool :=
  a.name == b.name && (strict || !(a.isFunction && b.isFunction))

/-- The first lexical declaration that repeats an earlier one or a `var`. -/
def clashAfter? (strict : Bool) (vars : List (List Char)) (earlier : List Binding) :
    List Binding → Option (List Char)
  | [] => none
  | b :: bs =>
    if earlier.any (excludes strict · b) || vars.contains b.name then some b.name
    else clashAfter? strict vars (b :: earlier) bs

/-- The first name that a scope declares twice. -/
def clash? (strict : Bool) (scope : Scope) : Option (List Char) :=
  clashAfter? strict scope.vars [] scope.lexical

end Scope
end Bookmarklet.Script
