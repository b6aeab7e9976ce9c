/-!
# Replacing marks

Texts in which a mark stands for another text.
-/

namespace Bookmarklet.Text

/-- The rest of a text with another text for each mark in it, from left to right; its first `skip` characters belong to
the last mark. -/
def replaceFrom (mark new : List Char) (skip : Nat) : List Char → List Char
  | [] => []
  | c :: cs =>
    match skip with
    | skip + 1 => replaceFrom mark new skip cs
    | 0 =>
      if mark.isPrefixOf (c :: cs) then new ++ replaceFrom mark new (mark.length - 1) cs
      else c :: replaceFrom mark new 0 cs

/-- A text with another text for each mark in it. -/
def replaceAll (mark new text : List Char) : List Char := replaceFrom mark new 0 text

/-- A text with another text for the first mark in it. -/
def replaceFirst (mark new : List Char) : List Char → List Char
  | [] => []
  | c :: cs =>
    if mark.isPrefixOf (c :: cs) then new ++ (c :: cs).drop mark.length else c :: replaceFirst mark new cs

end Bookmarklet.Text
