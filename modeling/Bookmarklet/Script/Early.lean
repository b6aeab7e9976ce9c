import Bookmarklet.Script.Problem
import Bookmarklet.Script.Scope

/-!
# Errors that precede execution

The grammar accepts scripts that an engine refuses to run. `Tree.violation?` walks a tree and finds the first such
offence: markup, a name declared twice, a jump without a target, `await` and `yield` outside their functions, and
`with` and `delete` in strict code. A `Context` tells what the surroundings of a node allow.
-/

namespace Bookmarklet.Script

/-- What the surroundings of a node allow. -/
structure Context where
  strict : Bool
  isAsync : Bool
  generator : Bool
  inLoop : Bool
  inSwitch : Bool
  /-- The labels around the node, innermost first, and whether each is that of a loop. -/
  labels : List (List Char × Bool)

namespace Context

/-- The surroundings of the statements of a program. -/
def program (strict : Bool) : Context := ⟨strict, false, false, false, false, []⟩

/-- The surroundings that a function makes; only strictness is inherited. -/
def function (c : Context) (strict isAsync generator : Bool) : Context :=
  ⟨c.strict || strict, isAsync, generator, false, false, []⟩

end Context

namespace Tree

/-! ## What a node says of itself -/

/-- The directive that makes code strict. -/
def useStrict : List Char := "use strict".toList

/-- Whether the directives at the start of some statements make them strict. -/
def areStrict : List Tree → Bool
  | [] => false
  | t :: ts =>
    match t.kind with
    | .comment | .hashBangLine | .token .lbrace => areStrict ts
    | .expressionStatement =>
      match t.firstNamed? with
      | none => false
      | some literal =>
        if literal.kind = .string then (literal.text.drop 1).dropLast == useStrict || areStrict ts else false
    | _ => false

/-- The block of a function whose body is one. -/
def functionBlock? (t : Tree) : Option Tree := (t.part? .body).filter (·.kind = .statementBlock)

/-- The parameter list of a function, or its only parameter. -/
def parameters? (t : Tree) : Option Tree := (t.part? .parameters).or (t.part? .parameter)

/-- Whether a function is a generator. -/
def isGenerator (t : Tree) : Bool :=
  match t.kind with
  | .generatorFunction | .generatorFunctionDeclaration => true
  | .methodDefinition => t.hasToken .star
  | _ => false

/-- Whether `await` or `yield` with its operand may also be read as a call. -/
def isCallLike (t : Tree) : Bool := t.firstNamed?.all (·.kind = .parenthesizedExpression)

/-- Whether a unary operation deletes a plain name. -/
def deletesName (t : Tree) : Bool :=
  (t.part? .operator).any (·.kind = .token .kwDelete) && (t.part? .argument).any (·.kind = .identifier)

/-! ## Rules for single nodes -/

/-- What a block belongs to. The scope of a function's block is checked with the function. -/
inductive Owner where
  | function
  | handler (parameter : Option Tree)
  | other

/-- What the children of a node belong to. -/
def ownerOf (parent child : Tree) : Owner :=
  if parent.kind.isFunction && child.info.field = some .body then .function
  else if parent.kind = .catchClause then .handler (parent.part? .parameter)
  else .other

/-- The offence of a scope that declares a name twice. -/
def scopeViolation? (strict : Bool) (scope : Scope) : Option SyntaxError :=
  (scope.clash? strict).map .redeclared

/-- The offence of a `break`. -/
def breakViolation? (c : Context) (label? : Option (List Char)) : Option SyntaxError :=
  match label? with
  | some label => if c.labels.any (·.1 == label) then none else some (.undefinedLabel label)
  | none => if c.inLoop || c.inSwitch then none else some .illegalBreak

/-- The offence of a `continue`. -/
def continueViolation? (c : Context) (label? : Option (List Char)) : Option SyntaxError :=
  match label? with
  | some label =>
    match c.labels.lookup label with
    | some true => none
    | some false => some (if c.inLoop then .illegalContinueLabel label else .illegalContinue)
    | none => some (.undefinedLabel label)
  | none => if c.inLoop then none else some .illegalContinue

/-- The text of a node's label. -/
def labelText? (t : Tree) : Option (List Char) := (t.part? .label).map (·.text)

/-- The offence of a node, whatever it contains. -/
def ownViolation? (c : Context) (owner : Owner) (t : Tree) : Option SyntaxError :=
  if t.kind.isMarkup then some (.unexpectedAt t.start ['<'])
  else if t.kind.isFunction then
    t.functionBlock?.bind fun block => scopeViolation? true (.ofFunction t.parameters? block.children)
  else
    match t.kind with
    | .statementBlock =>
      match owner with
      | .function => none
      | .handler parameter => scopeViolation? c.strict (.ofBlock parameter t.children)
      | .other => scopeViolation? c.strict (.ofBlock none t.children)
    | .switchBody => scopeViolation? c.strict (.ofCases t.children)
    | .breakStatement => breakViolation? c t.labelText?
    | .continueStatement => continueViolation? c t.labelText?
    | .awaitExpression => if !c.isAsync && !t.isCallLike then some .awaitOutsideAsync else none
    | .yieldExpression =>
      if !c.generator && (c.strict || !t.isCallLike) then some (.unexpectedAt t.start "yield".toList) else none
    | .withStatement => if c.strict then some .strictWith else none
    | .unaryExpression => if c.strict && t.deletesName then some .strictDelete else none
    | _ => none

/-- The surroundings that a node makes for its children. -/
def contextBelow (c : Context) (t : Tree) : Context :=
  if t.kind.isFunction then
    c.function (t.functionBlock?.any (areStrict ·.children)) (t.hasToken .kwAsync) t.isGenerator
  else if t.kind.isClass then { c with strict := true }
  else if t.kind.isLoop then { c with inLoop := true }
  else
    match t.kind with
    | .classStaticBlock => c.function true false false
    | .switchStatement => { c with inSwitch := true }
    | .labeledStatement =>
      match t.labelText? with
      | some label => { c with labels := (label, (t.part? .body).any (·.kind.isLoop)) :: c.labels }
      | none => c
    | _ => c

/-! ## The walk -/

mutual
/-- The first offence in a tree, in document order. -/
def violation? (c : Context) (owner : Owner) : Tree → Option SyntaxError
  | leaf info text => ownViolation? c owner (leaf info text)
  | node info children =>
    (ownViolation? c owner (node info children)).or
      (violationIn? (contextBelow c (node info children)) (ownerOf (node info children)) children)

/-- The first offence in consecutive trees. -/
def violationIn? (c : Context) (owner : Tree → Owner) : List Tree → Option SyntaxError
  | [] => none
  | t :: ts => (t.violation? c (owner t)).or (violationIn? c owner ts)
end

/-- The first offence in a program. -/
def programViolation? (t : Tree) : Option SyntaxError :=
  (scopeViolation? true (.ofFunction none t.children)).or
    (violationIn? (.program (areStrict t.children)) (fun _ => .other) t.children)

end Tree
end Bookmarklet.Script
