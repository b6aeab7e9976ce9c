/-!
# Places in a source

A `Position` tells where something stands; a `Cursor` also holds the text that follows it, so that lexing can start
there at once.
-/

namespace Bookmarklet.Script

/-- A place in a source, counted from zero: the bytes before it, the line feeds before it, and the bytes after the
last of these. -/
structure Position where
  byte : Nat
  line : Nat
  column : Nat
  deriving DecidableEq

namespace Position

/-- The start of a source. -/
def origin : Position := ⟨0, 0, 0⟩

/-- The place behind a character. -/
def after (p : Position) (c : Char) : Position :=
  if c = '\n' then ⟨p.byte + 1, p.line + 1, 0⟩ else ⟨p.byte + c.utf8Size, p.line, p.column + c.utf8Size⟩

end Position

/-- A place in a source and the text from there on. -/
structure Cursor where
  position : Position
  rest : List Char

namespace Cursor

/-- The start of a text. -/
def ofText (text : List Char) : Cursor := ⟨.origin, text⟩

/-- The cursor some characters further on. -/
def advance : Nat → Cursor → Cursor
  | 0, c => c
  | _ + 1, ⟨p, []⟩ => ⟨p, []⟩
  | n + 1, ⟨p, c :: cs⟩ => advance n ⟨p.after c, cs⟩

end Cursor
end Bookmarklet.Script
