import Bookmarklet.Script.Early
import Bookmarklet.Script.Minify.Plan
import Bookmarklet.Text.Digit

/-!
# What names refer to

Every place of a script where a variable is named (an `Occurrence`) refers to a declaration: to that of the innermost
scope around it that declares the name, or to a name of the surroundings (`Tree.occurrences`). Names are compared as
they read when their escapes are resolved (`unescape`). Default values and computed keys inside a parameter list see
the parameters, but not what the body declares.
-/

namespace Bookmarklet.Script

/-! ## Names with escapes -/

/-- The character with a hexadecimal number. -/
def hexChar? (digits : List Char) : Option Char := do
  let values ← digits.mapM Text.hexValue?
  let n := values.foldl (fun n d => 16 * n + d) 0
  if n.isValidChar then some (Char.ofNat n) else none

/-- The character that an escape at the start of a text stands for, and the length of the escape. -/
def escape? : List Char → Option (Char × Nat)
  | '\\' :: 'u' :: '\x7b' :: rest =>
    let digits := rest.takeWhile fun c => (Text.hexValue? c).isSome
    if digits.isEmpty || (rest.drop digits.length).head? != some '\x7d' then none
    else (hexChar? digits).map (·, digits.length + 4)
  | '\\' :: 'u' :: a :: b :: c :: d :: _ => (hexChar? [a, b, c, d]).map (·, 6)
  | _ => none

/-- The rest of a name, of which the first `skip` characters belong to the last escape, without escapes. -/
def unescapeFrom (skip : Nat) : List Char → List Char
  | [] => []
  | c :: cs =>
    match skip with
    | skip + 1 => unescapeFrom skip cs
    | 0 =>
      match escape? (c :: cs) with
      | some (d, length) => d :: unescapeFrom (length - 1) cs
      | none => c :: unescapeFrom 0 cs

/-- A name as it reads without escapes. -/
def unescape (name : List Char) : List Char := unescapeFrom 0 name

/-- A name without backslashes reads as it stands. -/
theorem unescape_of_plain : ∀ {name : List Char}, '\\' ∉ name → unescape name = name
  | [], _ => rfl
  | c :: cs, h => by
    have hc : c ≠ '\\' := fun heq => h (heq ▸ List.mem_cons_self)
    have hescape : escape? (c :: cs) = none := by
      unfold escape?
      split
      · exact absurd (List.cons.inj ‹_›).1 hc
      · exact absurd (List.cons.inj ‹_›).1 hc
      · rfl
    have ih : unescape cs = cs := unescape_of_plain fun hm => h (List.mem_cons_of_mem c hm)
    rw [unescape, unescapeFrom, hescape]
    exact congrArg (c :: ·) ih

/-! ## Scopes around a place -/

/-- What a scope of a node holds. -/
inductive Role where
  /-- What a program, a block, a loop, a handler or a `switch` declares. -/
  | inner
  /-- The name of a function or a class, inside of it. -/
  | name
  | parameters
  /-- What the body of a function declares with `var`, and its functions. -/
  | hoisted
  /-- What the body of a function declares otherwise. -/
  | lexical
  deriving DecidableEq

/-- A scope: the way to its node, from the innermost step outwards, and what it holds. -/
structure ScopeId where
  path : List Nat
  role : Role
  deriving DecidableEq

/-- A scope and the names that it declares, without escapes. -/
structure Frame where
  id : ScopeId
  names : List (List Char)

/-- The scopes around a place, innermost first: those of the innermost function and those around it. -/
structure Env where
  own : List Frame
  outer : List Frame

/-- What a name may refer to. -/
inductive Declaration where
  /-- The name with a number among those that a scope declares. -/
  | scoped (id : ScopeId) (index : Nat)
  | global (name : List Char)
  deriving DecidableEq

/-- The declaration of a name in the innermost of some scopes that has one. -/
def lookUp (name : List Char) : List Frame → Option Declaration
  | [] => none
  | f :: fs =>
    match f.names.idxOf? name with
    | some i => some (.scoped f.id i)
    | none => lookUp name fs

/-- A place where a variable is named: the byte at which the name starts, the name without escapes, what it refers to,
and whether that lies outside the innermost function. -/
structure Occurrence where
  start : Nat
  name : List Char
  declaration : Declaration
  isFree : Bool
  deriving DecidableEq

namespace Env

/-- An environment with some scopes more, inside all others. -/
def enter (env : Env) (frames : List Frame) : Env := { env with own := frames ++ env.own }

/-- The environment of a function's scopes. -/
def enterFunction (env : Env) (frames : List Frame) : Env := ⟨frames, env.own ++ env.outer⟩

/-- What a name that starts at a byte refers to. -/
def resolve (env : Env) (start : Nat) (name : List Char) : Occurrence where
  start := start
  name := name
  declaration := ((lookUp name env.own).or (lookUp name env.outer)).getD (.global name)
  isFree := (lookUp name env.own).isNone

end Env

/-- Whether a leaf of a kind names a variable. -/
def Kind.namesVariable : Kind → Bool
  | .identifier | .shorthandPropertyIdentifier | .shorthandPropertyIdentifierPattern => true
  | _ => false

namespace Tree

/-! ## What scopes declare -/

/-- The names that a statement declares with `let`, `const` or `class`. -/
def lexicalNames (statement : Tree) : List (List Char) :=
  match statement.kind with
  | .lexicalDeclaration => statement.declaredNames
  | .classDeclaration => boundNamesAt .name statement.children
  | _ => []

/-- The name that a statement gives to a function. -/
def functionNames (statement : Tree) : List (List Char) :=
  if statement.kind.isFunctionDeclaration then boundNamesAt .name statement.children else []

/-- The names that the statements of a block declare, apart from `var`. -/
def blockNames (statements : List Tree) : List (List Char) :=
  statements.flatMap fun statement => statement.lexicalNames ++ statement.functionNames

/-- The statements of the cases of a `switch`. -/
def caseStatements (t : Tree) : List Tree :=
  (t.children.filter fun c => c.kind = .switchCase || c.kind = .switchDefault).flatMap (·.parts .body)

/-- The names that a program declares. -/
def programNames (statements : List Tree) : List (List Char) := blockNames statements ++ varNamesIn statements

/-- The names that a loop over values declares with `let` or `const`. -/
def loopNames (t : Tree) : List (List Char) :=
  if (t.part? .kind).any (·.kind = .token .kwVar) then []
  else if (t.part? .kind).isSome then boundNamesAt .left t.children
  else []

/-- The names that a node other than a function declares for its children, if it makes a scope; `isBody` tells whether
it is the body of a function, whose scopes belong to the function. -/
def scopeNames? (isBody : Bool) (t : Tree) : Option (List (List Char)) :=
  match t.kind with
  | .program => some (programNames t.children)
  | .statementBlock => if isBody then none else some (blockNames t.children)
  | .switchBody => some (blockNames t.caseStatements)
  | .forStatement => some (((t.part? .initializer).map (·.lexicalNames)).getD [])
  | .forInStatement => some t.loopNames
  | .catchClause => some (((t.part? .parameter).map (·.boundNames)).getD [])
  | .classStaticBlock => some (varNamesIn t.children)
  | .classDeclaration | .classExpression => some (boundNamesAt .name t.children)
  | _ => none

mutual
/-- Whether a parameter list evaluates expressions: default values or computed keys. -/
def hasExpressions : Tree → Bool
  | leaf _ _ => false
  | node info children =>
    info.kind = .assignmentPattern || info.kind = .objectAssignmentPattern || info.kind = .computedPropertyName
      || hasExpressionsIn children

/-- Whether some trees evaluate expressions. -/
def hasExpressionsIn : List Tree → Bool
  | [] => false
  | t :: ts => t.hasExpressions || hasExpressionsIn ts
end

/-- The names of a function's parameters, and `arguments` where it is bound. -/
def parameterNames (function : Tree) : List (List Char) :=
  ((function.parameters?.map (·.boundNames)).getD [])
    ++ if function.kind = .arrowFunction then [] else ["arguments".toList]

/-- The statements of a function's body. -/
def bodyStatements (function : Tree) : List Tree := (function.functionBlock?.map (·.children)).getD []

/-! ## Scopes that nodes make -/

/-- A scope of a node, with the names that it declares. -/
def frame (path : List Nat) (role : Role) (names : List (List Char)) : Frame := ⟨⟨path, role⟩, names.map unescape⟩

/-- The scope that a function's own name makes. -/
def nameFrames (path : List Nat) (function : Tree) : List Frame :=
  match function.kind with
  | .functionExpression | .generatorFunction => [frame path .name (boundNamesAt .name function.children)]
  | _ => []

/-- The scope that the parameters of a function make. -/
def parameterFrame (path : List Nat) (function : Tree) : Frame := frame path .parameters function.parameterNames

/-- The scopes that the body of a function sees. A `var` that is named like a parameter is that parameter, unless the
parameter list evaluates expressions. -/
def bodyFrames (path : List Nat) (function : Tree) : List Frame :=
  let statements := function.bodyStatements
  let lexical := frame path .lexical (statements.flatMap lexicalNames)
  let hoisted := frame path .hoisted (statements.flatMap functionNames ++ varNamesIn statements)
  if function.parameters?.any (·.hasExpressions) then [lexical, hoisted, parameterFrame path function]
  else [lexical, parameterFrame path function, hoisted]

/-- The number of the first child that plays a part. -/
def partIndex? (t : Tree) (field : Field) : Option Nat := t.children.findIdx? (·.info.field == some field)

/-- The number of the child that holds a function's parameters. -/
def parametersIndex? (t : Tree) : Option Nat := (t.partIndex? .parameters).or (t.partIndex? .parameter)

/-- The environment that a node makes for the child with a number. -/
def envBelow (isBody : Bool) (env : Env) (path : List Nat) (t : Tree) (i : Nat) : Env :=
  if t.kind.isFunction then
    let env := env.enter (nameFrames path t)
    if t.partIndex? .body = some i then env.enterFunction (bodyFrames path t)
    else if t.parametersIndex? = some i then env.enterFunction [parameterFrame path t]
    else env
  else if t.kind = .classDeclaration && t.partIndex? .name = some i then env
  else env.enter ((t.scopeNames? isBody).map (frame path .inner)).toList

/-- Whether the child with a number is the body of a function. -/
def isBodyAt (t : Tree) (i : Nat) : Bool := t.kind.isFunction && t.partIndex? .body = some i

mutual
/-- The places in a tree where variables are named. -/
def occurrencesFrom (isBody : Bool) (env : Env) (path : List Nat) : Tree → List Occurrence
  | leaf info text => if info.kind.namesVariable then [env.resolve info.start.byte (unescape text)] else []
  | node info children =>
    occurrencesIn (fun i => (node info children).isBodyAt i) ((node info children).envBelow isBody env path) path 0
      children

/-- The places in the children of a node from a number on. -/
def occurrencesIn (isBody : Nat → Bool) (env : Nat → Env) (path : List Nat) (i : Nat) : List Tree → List Occurrence
  | [] => []
  | t :: ts => t.occurrencesFrom (isBody i) (env i) (i :: path) ++ occurrencesIn isBody env path (i + 1) ts
end

/-- The places in a program where variables are named. -/
def occurrences (t : Tree) : List Occurrence := t.occurrencesFrom false ⟨[], []⟩ []

end Tree
end Bookmarklet.Script
