import Bookmarklet.Script.Tree
import Bookmarklet.Script.Minify.FreshName
import Bookmarklet.Text.Utf8

/-!
# Shorter names for locals

`Tree.plan` gives new names to the locals of functions that are simple enough: no function, class, `with`, template
substitution or `eval` inside, and no parameter with a default. The new names are the shortest ones that do not occur
in the function. A plan holds, for each identifier that changes, the byte at which it starts and its new name.
-/

namespace Bookmarklet.Script

/-- The new names of identifiers, by the byte at which each starts. -/
abbrev Plan := List (Nat × List Char)

namespace Plan

/-- Names that no local is given and that no local with one of them gives up. -/
def reserved : List (List Char) :=
  ["arguments", "await", "break", "case", "catch", "class", "const", "continue", "debugger", "default", "delete",
   "do", "else", "enum", "eval", "export", "extends", "false", "finally", "for", "function", "if", "implements",
   "import", "in", "instanceof", "interface", "let", "new", "null", "package", "private", "protected", "public",
   "return", "static", "super", "switch", "this", "throw", "true", "try", "typeof", "undefined", "var", "void",
   "while", "with", "yield", "NaN", "Infinity"].map (·.toList)

/-- What is spelled in a part of a function. -/
structure Survey where
  /-- Where identifiers start, and their names. -/
  identifiers : List (Nat × List Char)
  /-- Properties that a variable of the same name gives or takes. -/
  shorthands : List (List Char)
  /-- Names of properties and labels. -/
  others : List (List Char)

namespace Survey

/-- Nothing spelled. -/
def empty : Survey := ⟨[], [], []⟩

/-- What is spelled in two parts. -/
def append (a b : Survey) : Survey :=
  ⟨a.identifiers ++ b.identifiers, a.shorthands ++ b.shorthands, a.others ++ b.others⟩

/-- Every name spelled. -/
def names (s : Survey) : List (List Char) := s.identifiers.map (·.2) ++ s.shorthands ++ s.others

/-- What a leaf spells; nothing is told of a function that names `eval`. -/
def ofLeaf (info : Info) (text : List Char) : Option Survey :=
  match info.kind with
  | .identifier => if text == "eval".toList then none else some ⟨[(info.start.byte, text)], [], []⟩
  | .shorthandPropertyIdentifier | .shorthandPropertyIdentifierPattern => some ⟨[], [text], []⟩
  | .propertyIdentifier | .statementIdentifier => some ⟨[], [], [text]⟩
  | _ => some empty

end Survey

/-- Kinds of nodes that keep a function from being changed. -/
def isObstacle (kind : Kind) : Bool :=
  kind.isFunction || kind.isClass || kind == .withStatement || kind == .templateSubstitution

/-- Adds a name to those found, unless it is among them. -/
def addName (names : List (List Char)) (name : List Char) : List (List Char) :=
  if names.contains name then names else names ++ [name]

end Plan

namespace Tree

open Plan

mutual
/-- What is spelled in a tree, unless something in it keeps the function from being changed. -/
def survey? : Tree → Option Survey
  | leaf info text => if isObstacle info.kind then none else Survey.ofLeaf info text
  | node info children => if isObstacle info.kind then none else surveyIn? children

/-- What is spelled in consecutive trees. -/
def surveyIn? : List Tree → Option Survey
  | [] => some .empty
  | t :: ts =>
    match t.survey?, surveyIn? ts with
    | some a, some b => some (a.append b)
    | _, _ => none
end

/-- The names that the declarators of a declaration bind one by one. -/
def declaratorNames (t : Tree) : List (List Char) :=
  t.children.filterMap fun declarator =>
    if declarator.kind = .variableDeclarator then
      ((declarator.part? .name).filter (·.kind = .identifier)).map (·.text)
    else none

/-- The names that the parameters of a function bind one by one; nothing if one of them has a default. -/
def parameterNames? (parameters : Tree) : Option (List (List Char)) :=
  if parameters.kind = .identifier then some [parameters.text]
  else if parameters.children.any (·.kind = .assignmentPattern) then none
  else some ((parameters.children.filter (·.kind = .identifier)).map (·.text))

/-- The names that the statements of a body declare at its top level. -/
def topLevelNames (body : Tree) : List (List Char) :=
  if body.kind = .statementBlock then
    body.children.flatMap fun statement =>
      match statement.kind with
      | .lexicalDeclaration | .variableDeclaration => statement.declaratorNames
      | _ => []
  else []

mutual
/-- The names that `var` declares one by one anywhere in a tree. -/
def varDeclaratorNames : Tree → List (List Char)
  | leaf _ _ => []
  | node info children =>
    (if info.kind = .variableDeclaration then (node info children).declaratorNames else [])
      ++ varDeclaratorNamesIn children

/-- The names that `var` declares one by one in consecutive trees. -/
def varDeclaratorNamesIn : List Tree → List (List Char)
  | [] => []
  | t :: ts => t.varDeclaratorNames ++ varDeclaratorNamesIn ts
end

end Tree

namespace Plan

/-- Gives new names to some names in order, as far as that makes them shorter; `n` is the number of the first fresh
name to try. -/
def assign (taken : List (List Char)) (n : Nat) : List (List Char) → List (List Char × List Char)
  | [] => []
  | name :: rest =>
    let n := FreshName.next taken n
    let short := FreshName.spell n
    if short.length < Text.byteLength name then (name, short) :: assign taken (n + 1) rest
    else assign taken n rest

/-- The new names of a function's locals. -/
def mapping (survey : Survey) (bound : List (List Char)) : List (List Char × List Char) :=
  let locals := (bound.foldl addName []).filter fun name =>
    !survey.shorthands.contains name && !reserved.contains name
  assign (survey.names ++ reserved) 0 locals

end Plan

namespace Tree

open Plan

/-- What is spelled in the parameters and the body of a function, and the names that it binds; nothing if it is not
simple enough. -/
def locals? (function : Tree) : Option (Survey × List (List Char)) := do
  let body ← function.part? .body
  let parameters := ((function.part? .parameters).or (function.part? .parameter)).toList
  let survey ← surveyIn? (parameters ++ [body])
  let bound ← parameters.mapM parameterNames?
  return (survey, bound.flatten ++ body.topLevelNames ++ body.varDeclaratorNames)

/-- The plan for one function. -/
def functionPlan (function : Tree) : Plan :=
  match function.locals? with
  | none => []
  | some (survey, bound) =>
    let mapping := mapping survey bound
    survey.identifiers.filterMap fun (start, name) => (mapping.lookup name).map (start, ·)

mutual
/-- The plan for all functions of a tree. -/
def plan : Tree → Plan
  | leaf _ _ => []
  | node info children =>
    (if info.kind.isFunction then (node info children).functionPlan else []) ++ planIn children

/-- The plan for all functions of consecutive trees. -/
def planIn : List Tree → Plan
  | [] => []
  | t :: ts => t.plan ++ planIn ts
end

end Tree
end Bookmarklet.Script
