import Bookmarklet.Text.Blank

/-!
# Replies in free text

What is left of a reply without the marks that surround code (`stripFences`) or precede the items of a list
(`bulletLines`).
-/

namespace Bookmarklet.Assist

/-- The mark before and behind code. -/
def fence : List Char := List.replicate 3 '\x60'

/-- A text without a word at its start, if it starts with it. -/
def stripPrefix? (word text : List Char) : Option (List Char) :=
  if word.isPrefixOf text then some (text.drop word.length) else none

/-- A text without a word at its end, if it ends with it. -/
def stripSuffix? (word text : List Char) : Option (List Char) :=
  (stripPrefix? word.reverse text.reverse).map List.reverse

/-- What follows the first line of a text; nothing if it has only one. -/
def afterFirstLine (text : List Char) : List Char := (text.dropWhile (· != '\n')).drop 1

/-- A reply without the fences around its code, and without blanks at its ends. -/
def stripFences (reply : List Char) : List Char :=
  let trimmed := Text.trim reply
  match stripPrefix? fence trimmed with
  | none => trimmed
  | some rest =>
    let body := afterFirstLine rest
    Text.trim ((stripSuffix? fence body).getD body)

/-- The marks of lists without numbers. -/
def bullets : List Char := ['-', '*', '•']

/-- What follows the number of an item, where that is followed by a point or a bracket and a space. -/
def afterNumber? (line : List Char) : Option (List Char) :=
  match line.dropWhile Char.isDigit with
  | mark :: ' ' :: rest =>
    if (line.head?.any Char.isDigit) && (mark == '.' || mark == ')') then some (Text.trimStart rest) else none
  | _ => none

/-- A line without the mark of a list item. -/
def stripMark (line : List Char) : List Char :=
  match line with
  | mark :: ' ' :: rest =>
    if bullets.contains mark then Text.trimStart rest else (afterNumber? line).getD line
  | _ => (afterNumber? line).getD line

/-- The items of a list, one to a line. -/
def bulletLines (reply : List Char) : List (List Char) :=
  ((Text.lines reply).map fun line => stripMark (Text.trim line)).filter (!·.isEmpty)

end Bookmarklet.Assist
