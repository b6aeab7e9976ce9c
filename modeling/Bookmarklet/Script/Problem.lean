import Bookmarklet.Script.Tree
import Bookmarklet.Text.Blank

/-!
# What can be wrong with a script

`SyntaxError` lists the reasons for which a script is refused, and `SyntaxError.message` words them. For a tree that
does not conform to the grammar, `Tree.firstProblem?` finds the first error or missing token in document order.
-/

namespace Bookmarklet.Script

/-- Why a script is refused. Lines and columns count from one, columns in bytes. -/
inductive SyntaxError where
  /-- No syntax tree was found. -/
  | parseFailed
  /-- Text that fits nowhere. -/
  | unexpectedToken (token : List Char) (line column : Nat)
  /-- A token that the script lacks. -/
  | missingToken (token : String) (line column : Nat)
  /-- The script ends inside a construct. -/
  | unexpectedEnd
  | importOutsideModule
  | unexpectedExport
  /-- A name that one scope declares twice. -/
  | redeclared (name : List Char)
  | illegalBreak
  | illegalContinue
  /-- A `continue` to a label that is not that of a loop. -/
  | illegalContinueLabel (label : List Char)
  /-- A jump to a label that does not enclose it. -/
  | undefinedLabel (label : List Char)
  | awaitOutsideAsync
  | strictWith
  | strictDelete
  deriving DecidableEq

namespace SyntaxError

/-- A token refused at a place. -/
def unexpectedAt (place : Position) (token : List Char) : SyntaxError :=
  .unexpectedToken token (place.line + 1) (place.column + 1)

/-- The place of a problem, as messages give it. -/
def placeText (line column : Nat) : String := "line " ++ toString line ++ ", column " ++ toString column

/-- A refusal in words. -/
def message : SyntaxError → String
  | parseFailed => "parse failed"
  | unexpectedToken token line column =>
    "Unexpected token '" ++ String.ofList token ++ "' at " ++ placeText line column
  | missingToken token line column => "Missing '" ++ token ++ "' at " ++ placeText line column
  | unexpectedEnd => "Unexpected end of input"
  | importOutsideModule => "Cannot use import statement outside a module"
  | unexpectedExport => "Unexpected token 'export'"
  | redeclared name => "Identifier '" ++ String.ofList name ++ "' has already been declared"
  | illegalBreak => "Illegal break statement"
  | illegalContinue => "Illegal continue statement: no surrounding iteration statement"
  | illegalContinueLabel label =>
    "Illegal continue statement: '" ++ String.ofList label ++ "' does not denote an iteration statement"
  | undefinedLabel label => "Undefined label '" ++ String.ofList label ++ "'"
  | awaitOutsideAsync => "await is only valid in async functions and the top level bodies of modules"
  | strictWith => "Strict mode code may not include a with statement"
  | strictDelete => "Delete of an unqualified identifier in strict mode."

end SyntaxError

namespace Tree

/-- How many characters of a token a message quotes. -/
def excerptLength : Nat := 24

/-- The text of the leaf reached by always going to the first child. -/
def firstLeafText : Tree → List Char
  | leaf _ text => text
  | node _ [] => []
  | node _ (first :: _) => first.firstLeafText

/-- What a message quotes of an error: the first word of its first leaf, or of its whole text if that leaf has none,
cut short. -/
def excerpt (t : Tree) : List Char :=
  let text := if t.firstLeafText.isEmpty then t.text else t.firstLeafText
  ((Text.words text).headD []).take excerptLength

/-- The problem that a node itself is. -/
def ownProblem? (t : Tree) : Option SyntaxError :=
  if t.info.missing then
    some (.missingToken t.kind.name (t.start.line + 1) (t.start.column + 1))
  else if t.kind = .error then
    some (if t.excerpt.isEmpty then .unexpectedEnd else .unexpectedAt t.start t.excerpt)
  else none

mutual
/-- The first problem of a tree, in document order. Only nodes marked as faulty are searched. -/
def firstProblem? : Tree → Option SyntaxError
  | leaf info text => (leaf info text).ownProblem?
  | node info children => (node info children).ownProblem?.or (firstProblemIn? children)

/-- The first problem of consecutive trees. -/
def firstProblemIn? : List Tree → Option SyntaxError
  | [] => none
  | t :: ts =>
    if t.info.faulty || t.info.missing then t.firstProblem?.or (firstProblemIn? ts) else firstProblemIn? ts
end

end Tree
end Bookmarklet.Script
