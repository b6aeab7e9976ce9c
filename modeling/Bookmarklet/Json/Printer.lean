import Bookmarklet.Json.Decimal
import Bookmarklet.Text.Digit

/-!
# Writing JSON

`Json.compact` writes a value without blanks, `Json.pretty` one item or member to a line, indented by two spaces.
-/

namespace Bookmarklet.Json

/-- A character as it stands in a quoted text. -/
def quotedChar (c : Char) : List Char :=
  match c with
  | '"' => ['\\', '"']
  | '\\' => ['\\', '\\']
  | '\n' => ['\\', 'n']
  | '\r' => ['\\', 'r']
  | '\t' => ['\\', 't']
  | '\x08' => ['\\', 'b']
  | '\x0c' => ['\\', 'f']
  | c =>
    if c.toNat < 32 then ['\\', 'u', '0', '0', Text.hexDigit 'a' (c.toNat / 16), Text.hexDigit 'a' (c.toNat % 16)]
    else [c]

/-- A text in quotes. -/
def quote (s : String) : String := "\"" ++ String.ofList (s.toList.flatMap quotedChar) ++ "\""

mutual
/-- A value without blanks. -/
def compact : Json → String
  | null => "null"
  | bool b => if b then "true" else "false"
  | integer n => toString n
  | decimal d => d.text
  | string s => quote s
  | array items => "[" ++ compactItems items ++ "]"
  | object members => "\x7b" ++ compactMembers members ++ "\x7d"

/-- Items, separated by commas. -/
def compactItems : List Json → String
  | [] => ""
  | [v] => v.compact
  | v :: vs => v.compact ++ "," ++ compactItems vs

/-- Members, separated by commas. -/
def compactMembers : List (String × Json) → String
  | [] => ""
  | [(name, v)] => quote name ++ ":" ++ v.compact
  | (name, v) :: ms => quote name ++ ":" ++ v.compact ++ "," ++ compactMembers ms
end

/-- A line break and the indentation at a depth. -/
def lineBreak (depth : Nat) : String := "\n" ++ String.ofList (List.replicate (2 * depth) ' ')

mutual
/-- A value on lines of its own, at a depth. -/
def prettyAt (depth : Nat) : Json → String
  | array [] => "[]"
  | array items => "[" ++ prettyItems (depth + 1) items ++ lineBreak depth ++ "]"
  | object [] => "\x7b\x7d"
  | object members => "\x7b" ++ prettyMembers (depth + 1) members ++ lineBreak depth ++ "\x7d"
  | v => v.compact

/-- Items, each on a line of its own. -/
def prettyItems (depth : Nat) : List Json → String
  | [] => ""
  | [v] => lineBreak depth ++ v.prettyAt depth
  | v :: vs => lineBreak depth ++ v.prettyAt depth ++ "," ++ prettyItems depth vs

/-- Members, each on a line of its own. -/
def prettyMembers (depth : Nat) : List (String × Json) → String
  | [] => ""
  | [(name, v)] => lineBreak depth ++ quote name ++ ": " ++ v.prettyAt depth
  | (name, v) :: ms => lineBreak depth ++ quote name ++ ": " ++ v.prettyAt depth ++ "," ++ prettyMembers depth ms
end

/-- A value on lines of its own. -/
def pretty (v : Json) : String := v.prettyAt 0

end Bookmarklet.Json
