import Bookmarklet.Text.Blank
import Bookmarklet.Text.Case
import Bookmarklet.Text.Utf8
import Bookmarklet.Text.Word

/-!
# Signatures

A signature describes pieces of text to look for: characters, in either case or as given, blanks, and the edges of
words. `Signature.occurrences` finds the pieces of a text that match, from left to right and without overlap, with
their places in bytes.
-/

namespace Bookmarklet.Screening

/-- A part of a signature. -/
inductive Mark where
  /-- The edge of a word. -/
  | edge
  | exact (c : Char)
  /-- A letter in either case; `c` is the small one. -/
  | anyCase (c : Char)
  /-- One blank. -/
  | blank
  /-- Any number of blanks, as many as there are. -/
  | blanks
  deriving DecidableEq

/-- What to look for. -/
abbrev Signature := List Mark

namespace Signature

/-- A text as it stands. -/
def exactly (s : String) : Signature := s.toList.map .exact

/-- A text in any case; `s` is written small. -/
def inAnyCase (s : String) : Signature := s.toList.map .anyCase

/-- The piece at the start of a text that matches a signature; `before` is the character before the text. -/
def match? (before : Option Char) : Signature → List Char → Option (List Char)
  | [], _ => some []
  | .edge :: marks, text => if Text.isWordEdge before text.head? then match? before marks text else none
  | .blanks :: marks, text =>
    let run := text.takeWhile Text.isBlank
    (match? (run.getLast?.or before) marks (text.dropWhile Text.isBlank)).map (run ++ ·)
  | .exact c :: marks, text =>
    match text with
    | d :: rest => if c == d then (match? (some d) marks rest).map (d :: ·) else none
    | [] => none
  | .anyCase c :: marks, text =>
    match text with
    | d :: rest => if Text.foldsTo c d then (match? (some d) marks rest).map (d :: ·) else none
    | [] => none
  | .blank :: marks, text =>
    match text with
    | d :: rest => if Text.isBlank d then (match? (some d) marks rest).map (d :: ·) else none
    | [] => none

end Signature

/-- A piece of text that was found: the byte at which it starts, and the piece. -/
structure Occurrence where
  index : Nat
  text : List Char

/-- How many bytes an occurrence has. -/
def Occurrence.length (o : Occurrence) : Nat := Text.byteLength o.text

namespace Signature

/-- The occurrences of a signature in the rest of a text: `index` bytes and the character `before` precede it, and
its first `skip` characters belong to the last occurrence. -/
def occurrencesFrom (s : Signature) (index skip : Nat) (before : Option Char) : List Char → List Occurrence
  | [] => []
  | c :: cs =>
    let further := fun skip => occurrencesFrom s (index + c.utf8Size) skip (some c) cs
    match skip with
    | skip + 1 => further skip
    | 0 =>
      match s.match? before (c :: cs) with
      | some piece => ⟨index, piece⟩ :: further (piece.length - 1)
      | none => further 0

/-- The occurrences of a signature in a text. -/
def occurrences (s : Signature) (text : List Char) : List Occurrence := occurrencesFrom s 0 0 none text

/-- Whether a signature occurs in the rest of a text. -/
def occursFrom (s : Signature) (before : Option Char) : List Char → Bool
  | [] => (s.match? before []).isSome
  | c :: cs => (s.match? before (c :: cs)).isSome || occursFrom s (some c) cs

/-- Whether a signature occurs in a text. -/
def occursIn (s : Signature) (text : List Char) : Bool := occursFrom s none text

end Signature
end Bookmarklet.Screening
