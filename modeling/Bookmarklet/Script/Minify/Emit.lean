import Bookmarklet.Script.Minify.Plan

/-!
# Writing a script tightly

A script is written in two steps. `Tree.pieces` lists its tokens without comments, and notes where statements end.
`Piece.write` puts the tokens together: a statement that is followed by anything but a closing brace ends with a
semicolon, and a blank stands only between tokens that would read as one.
-/

namespace Bookmarklet.Script

namespace Kind

/-- Statements that end with a terminator. -/
def isTerminated : Kind → Bool
  | .expressionStatement | .variableDeclaration | .lexicalDeclaration | .returnStatement | .throwStatement
  | .breakStatement | .continueStatement | .debuggerStatement | .doStatement | .fieldDefinition
  | .importStatement | .exportStatement => true
  | _ => false

/-- Nodes that are written as they stand. -/
def isVerbatim : Kind → Bool
  | .string | .templateString | .regex | .number => true
  | _ => false

/-- Nodes directly below which a truth value may be written as a negated digit. -/
def holdsValues : Kind → Bool
  | .variableDeclarator | .assignmentExpression | .returnStatement | .arguments | .array | .pair => true
  | _ => false

end Kind

/-- What is to be written. -/
inductive Piece where
  | token (text : List Char) (isNumber : Bool)
  /-- The end of a statement. -/
  | terminator
  deriving DecidableEq

namespace Tree

/-- What a token becomes, by its kind, place and parent. -/
def writtenText (plan : Plan) (parent : Option Kind) (info : Info) (text : List Char) : List Char :=
  match info.kind with
  | .identifier => (plan.lookup info.start.byte).getD text
  | .trueLiteral => if parent.any (·.holdsValues) then ['!', '0'] else text
  | .falseLiteral => if parent.any (·.holdsValues) then ['!', '1'] else text
  | _ => text

/-- The piece that a token becomes; a semicolon that ends a statement is only noted. -/
def tokenPiece (plan : Plan) (parent : Option Kind) (info : Info) (text : List Char) : Piece :=
  if info.kind = .token .semicolon && parent.any (·.isTerminated) then .terminator
  else .token (writtenText plan parent info text) (info.kind = .number)

/-- Whether the first of some trees, apart from comments, is a semicolon. -/
def startsWithSemicolon (ts : List Tree) : Bool :=
  (ts.find? fun t => !t.kind.isComment).any (·.kind = .token .semicolon)

/-- Whether the last of some trees, apart from comments, is a semicolon. -/
def endsWithSemicolon (ts : List Tree) : Bool := startsWithSemicolon ts.reverse

mutual
/-- The pieces of a tree; `followed` tells whether a semicolon comes next. -/
def pieces (plan : Plan) (parent : Option Kind) (followed : Bool) : Tree → List Piece
  | leaf info text => if info.kind.isComment then [] else [tokenPiece plan parent info text]
  | node info children =>
    if info.kind.isComment then []
    else if children.isEmpty || info.kind.isVerbatim then
      [tokenPiece plan parent info (node info children).text]
    else
      piecesIn plan info.kind children
        ++ if info.kind.isTerminated && !endsWithSemicolon children && !followed then [.terminator] else []

/-- The pieces of siblings. -/
def piecesIn (plan : Plan) (parent : Kind) : List Tree → List Piece
  | [] => []
  | t :: ts => t.pieces plan (some parent) (startsWithSemicolon ts) ++ piecesIn plan parent ts
end

end Tree

namespace Piece

/-- Whether a character may be part of a word. -/
def isWordChar (c : Char) : Bool := c.isAlphanum || c == '_' || c == '$' || c == '\\' || 127 < c.toNat

/-- The end of what has been written: its last character, and whether that belongs to a number. -/
structure Ending where
  last : Char
  isNumber : Bool

/-- Whether a token that starts with a character would join what has been written. -/
def joins (ending : Ending) (first : Char) : Bool :=
  (isWordChar ending.last && isWordChar first)
    || (ending.last == '+' && first == '+')
    || (ending.last == '-' && first == '-')
    || (ending.last == '/' && (first == '/' || first == '*'))
    || (ending.last == '<' && first == '!')
    || (ending.isNumber && first == '.')

/-- Writes pieces behind what has been written; `due` tells whether a statement has ended there. -/
def write (ending : Option Ending) (due : Bool) : List Piece → List Char
  | [] => []
  | terminator :: rest => write ending true rest
  | token [] _ :: rest => write ending due rest
  | token (c :: cs) isNumber :: rest =>
    let ends := due && c :: cs != ['\x7d']
    let ending := if ends then some ⟨';', false⟩ else ending
    (if ends then [';'] else []) ++ (if ending.any (joins · c) then [' '] else []) ++ c :: cs
      ++ write (some ⟨(c :: cs).getLast (List.cons_ne_nil c cs), isNumber⟩) false rest

end Piece

/-- A tree written tightly. -/
def Tree.emit (plan : Plan) (t : Tree) : List Char := Piece.write none false (t.pieces plan none false)

end Bookmarklet.Script
