import Bookmarklet.Script.Kind
import Bookmarklet.Script.Position

/-!
# Syntax trees

A tree holds every token of its source: a leaf carries the text of a token and the blanks between it and the token
before it (`Info.gap`), so the text of a whole construct can be read off (`Tree.text`).
-/

namespace Bookmarklet.Script

/-- What is known of a node apart from what it contains. -/
structure Info where
  kind : Kind
  /-- The part that the node plays in its parent. -/
  field : Option Field
  start : Position
  /-- The blanks that separate the node from the one before it. -/
  gap : List Char
  /-- The node stands for a token that the source lacks. -/
  missing : Bool
  /-- The node or something in it is an error or a token without text. -/
  faulty : Bool

/-- A syntax tree. -/
inductive Tree where
  | leaf (info : Info) (text : List Char)
  | node (info : Info) (children : List Tree)

namespace Tree

/-- What is known of the root apart from what it contains. -/
def info : Tree → Info
  | leaf info _ => info
  | node info _ => info

/-- The nodes directly below. -/
def children : Tree → List Tree
  | leaf _ _ => []
  | node _ children => children

/-- What the root is. -/
def kind (t : Tree) : Kind := t.info.kind

/-- Where the root starts. -/
def start (t : Tree) : Position := t.info.start

mutual
/-- The source text that a tree covers. -/
def text : Tree → List Char
  | leaf _ text => text
  | node _ children => textOf children

/-- The text of consecutive siblings, the first one without the gap before it. -/
def textOf : List Tree → List Char
  | [] => []
  | t :: ts => t.text ++ spacedTextOf ts

/-- The text of a tree, each token behind its gap. -/
def spacedText : Tree → List Char
  | leaf info text => info.gap ++ text
  | node _ children => spacedTextOf children

/-- The text of consecutive siblings, each token behind its gap. -/
def spacedTextOf : List Tree → List Char
  | [] => []
  | t :: ts => t.spacedText ++ spacedTextOf ts
end

/-- The first child that plays a part. -/
def part? (t : Tree) (field : Field) : Option Tree := t.children.find? (·.info.field == some field)

/-- All children that play a part. -/
def parts (t : Tree) (field : Field) : List Tree := t.children.filter (·.info.field == some field)

/-- The first child that is a construct or a named token. -/
def firstNamed? (t : Tree) : Option Tree := t.children.find? (·.kind.isNamed)

/-- Whether a token with a fixed spelling stands directly below. -/
def hasToken (t : Tree) (terminal : Terminal) : Bool := t.children.any (·.kind == .token terminal)

end Tree
end Bookmarklet.Script
