import Bookmarklet.Toml.Scalar
import Bookmarklet.Toml.Text

/-!
# Reading TOML

A document is read into the statements of its lines (`readStatements`), and these make its table (`parse?`). Values
are nested, and keys dotted, at most to a depth of 79.
-/

namespace Bookmarklet.Toml

/-! ## Between values -/

/-- Skips blanks, line breaks and comments within an array. -/
def skipGap (inComment : Bool) : List Char → Option (List Char)
  | [] => none
  | '\n' :: rest | '\r' :: '\n' :: rest => skipGap false rest
  | c :: rest =>
    if inComment then if isPlain c then skipGap true rest else none
    else if isBlank c then skipGap false rest
    else if c == '#' then skipGap true rest
    else some (c :: rest)

/-- Reads the rest of a line on which only blanks and a comment stand. -/
def readLineEnd (inComment : Bool) : List Char → Option (List Char)
  | [] => some []
  | '\n' :: rest | '\r' :: '\n' :: rest => some rest
  | c :: rest =>
    if inComment then if isPlain c then readLineEnd true rest else none
    else if isBlank c then readLineEnd false rest
    else if c == '#' then readLineEnd true rest
    else none

/-! ## Values -/

/-- How deep values are nested at most, and how many parts a key has. -/
def depthLimit : Nat := 79

section Values

variable (readItem : List Char → Option (Value × List Char))

/-- Reads the items of an array up to its bracket. The comma behind the last item may be left out. -/
def readItems : (fuel : Nat) → List Char → Option (List Value × List Char)
  | 0, _ => none
  | fuel + 1, text => do
    match ← skipGap false text with
    | ']' :: rest => return ([], rest)
    | text =>
      let (item, rest) ← readItem text
      match ← skipGap false rest with
      | ',' :: rest =>
        let (items, rest) ← readItems fuel rest
        return (item :: items, rest)
      | ']' :: rest => return ([item], rest)
      | _ => none

/-- Reads a key, the sign behind it, and a value. -/
def readPair (text : List Char) : Option (List String × String × Value × List Char) := do
  let (path, key, rest) ← readKey depthLimit text
  match rest with
  | '=' :: rest =>
    let (value, rest) ← readItem (skipBlanks rest)
    return (path, key, value, rest)
  | _ => none

/-- Reads the keys and values of a table in braces, of which there is at least one more, up to the brace. -/
def readPairs : (fuel : Nat) → Table → List Char → Option (Table × List Char)
  | 0, _, _ => none
  | fuel + 1, t, text => do
    let (path, key, value, rest) ← readPair readItem text
    let t ← t.insertInline path key value
    match skipBlanks rest with
    | ',' :: rest => readPairs fuel t rest
    | '\x7d' :: rest => return (t, rest)
    | _ => none

end Values

/-- Reads a value in which others are nested to a certain depth. -/
def readValue : (depth : Nat) → List Char → Option (Value × List Char)
  | depth, text =>
    match depth, text with
    | depth + 1, '[' :: rest =>
      (readItems (readValue depth) (rest.length + 1) rest).map fun (items, rest) => (.array items, rest)
    | depth + 1, '\x7b' :: rest =>
      match skipBlanks rest with
      | '\x7d' :: rest => some (.table .inline [], rest)
      | rest => (readPairs (readValue depth) (rest.length + 1) [] rest).map fun (t, rest) => (.table .inline t, rest)
    | _, '"' :: _ | _, '\'' :: _ => (readString text).map fun (s, rest) => (.string (String.ofList s), rest)
    | _, _ => readWord text

/-! ## Documents -/

/-- Reads the header of a table. -/
def readHeader (text : List Char) : Option (Statement × List Char) :=
  match text with
  | '[' :: '[' :: rest => do
    match ← readKey depthLimit rest with
    | (path, key, ']' :: ']' :: rest) => return (.series path key, rest)
    | _ => none
  | '[' :: rest => do
    match ← readKey depthLimit rest with
    | (path, key, ']' :: rest) => return (.table path key, rest)
    | _ => none
  | _ => none

/-- Reads a statement and the end of its line. -/
def readStatement (text : List Char) : Option (Statement × List Char) := do
  let (statement, rest) ←
    match text with
    | '[' :: _ => readHeader text
    | _ => (readPair (readValue depthLimit) text).map fun (path, key, value, rest) => (.pair path key value, rest)
  return (statement, ← readLineEnd false rest)

/-- Reads the statements of a document line by line. -/
def readStatements : (fuel : Nat) → List Char → Option (List Statement)
  | 0, _ => none
  | fuel + 1, text =>
    match skipBlanks text with
    | [] => some []
    | text =>
      match readLineEnd false text with
      | some rest => readStatements fuel rest
      | none => do
        let (statement, rest) ← readStatement text
        return statement :: (← readStatements fuel rest)

/-- A text without the mark of its byte order. -/
def dropByteOrderMark : List Char → List Char
  | '\ufeff' :: rest => rest
  | text => text

/-- The table that a document spells. -/
def parse? (document : List Char) : Option Table := do
  build [] [] (← readStatements (document.length + 1) (dropByteOrderMark document))

end Bookmarklet.Toml
