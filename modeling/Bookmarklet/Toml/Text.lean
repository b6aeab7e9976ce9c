import Bookmarklet.Text.Digit

/-!
# TOML keys and strings

Keys are written bare or in quotes, strings in quotes of four kinds: with or without escapes, on one line or on
several. Each reader gives what it has read and the rest of the text.
-/

namespace Bookmarklet.Toml

/-- Blanks within a line. -/
def isBlank (c : Char) : Bool := c == ' ' || c == '\t'

/-- A text without the blanks at its start. -/
def skipBlanks (text : List Char) : List Char := text.dropWhile isBlank

/-- The characters that a comment or a string may hold as they are: no control characters but the tab. -/
def isPlain (c : Char) : Bool := c == '\t' || (32 ≤ c.toNat && c.toNat != 127)

/-! ## Escapes -/

/-- The character with a number in hexadecimal digits. -/
def codePoint? (digits : List Char) : Option Char := do
  let n ← digits.foldlM (fun n c => (Text.hexValue? c).map (16 * n + ·)) 0
  if n.isValidChar then some (Char.ofNat n) else none

/-- Reads an escape behind its backslash. -/
def readEscape : List Char → Option (Char × List Char)
  | 'b' :: rest => some ('\x08', rest)
  | 't' :: rest => some ('\t', rest)
  | 'n' :: rest => some ('\n', rest)
  | 'f' :: rest => some ('\x0c', rest)
  | 'r' :: rest => some ('\r', rest)
  | '"' :: rest => some ('"', rest)
  | '\\' :: rest => some ('\\', rest)
  | 'u' :: a :: b :: c :: d :: rest => (codePoint? [a, b, c, d]).map (·, rest)
  | 'U' :: a :: b :: c :: d :: e :: f :: g :: h :: rest => (codePoint? [a, b, c, d, e, f, g, h]).map (·, rest)
  | _ => none

theorem readEscape_length {text rest : List Char} {c : Char} (h : readEscape text = some (c, rest)) :
    rest.length < text.length := by
  unfold readEscape at h
  split at h <;> simp_all <;> grind

/-! ## Strings on one line -/

/-- Reads a string with escapes behind its opening quote. -/
def readBasic (text : List Char) : Option (List Char × List Char) :=
  match text with
  | [] => none
  | '"' :: rest => some ([], rest)
  | '\\' :: rest =>
    match h : readEscape rest with
    | none => none
    | some (c, rest') =>
      have := readEscape_length h
      (readBasic rest').map fun (cs, rest) => (c :: cs, rest)
  | c :: rest => if isPlain c then (readBasic rest).map fun (cs, rest) => (c :: cs, rest) else none
termination_by text.length

/-- Reads a string without escapes behind its opening quote. -/
def readLiteral : List Char → Option (List Char × List Char)
  | [] => none
  | '\'' :: rest => some ([], rest)
  | c :: rest => if isPlain c then (readLiteral rest).map fun (cs, rest) => (c :: cs, rest) else none

/-! ## Strings on several lines -/

/-- A text without the line break at its start, if there is one. -/
def dropLineBreak : List Char → List Char
  | '\n' :: rest => rest
  | '\r' :: '\n' :: rest => rest
  | text => text

/-- A text without the blanks and line breaks at its start. -/
def skipSpace : List Char → List Char
  | ' ' :: rest | '\t' :: rest | '\n' :: rest | '\r' :: '\n' :: rest => skipSpace rest
  | text => text

theorem skipSpace_length (text : List Char) : (skipSpace text).length ≤ text.length := by
  fun_induction skipSpace text <;> simp_all <;> omega

/-- Whether nothing more stands on a line. -/
def atLineBreak (text : List Char) : Bool :=
  match skipBlanks text with
  | '\n' :: _ | '\r' :: '\n' :: _ => true
  | _ => false

/-- Reads a string with escapes behind its three opening quotes. A backslash at the end of a line removes the space
that follows; one or two quotes may stand before the closing ones. -/
def readLongBasic (text : List Char) : Option (List Char × List Char) :=
  match text with
  | [] => none
  | '"' :: '"' :: '"' :: '"' :: '"' :: rest => some (['"', '"'], rest)
  | '"' :: '"' :: '"' :: '"' :: rest => some (['"'], rest)
  | '"' :: '"' :: '"' :: rest => some ([], rest)
  | '\\' :: rest =>
    if atLineBreak rest then
      have := skipSpace_length rest
      readLongBasic (skipSpace rest)
    else
      match h : readEscape rest with
      | none => none
      | some (c, rest') =>
        have := readEscape_length h
        (readLongBasic rest').map fun (cs, rest) => (c :: cs, rest)
  | '\n' :: rest | '\r' :: '\n' :: rest => (readLongBasic rest).map fun (cs, rest) => ('\n' :: cs, rest)
  | c :: rest => if isPlain c then (readLongBasic rest).map fun (cs, rest) => (c :: cs, rest) else none
termination_by text.length

/-- Reads a string without escapes behind its three opening quotes. -/
def readLongLiteral : List Char → Option (List Char × List Char)
  | [] => none
  | '\'' :: '\'' :: '\'' :: '\'' :: '\'' :: rest => some (['\'', '\''], rest)
  | '\'' :: '\'' :: '\'' :: '\'' :: rest => some (['\''], rest)
  | '\'' :: '\'' :: '\'' :: rest => some ([], rest)
  | '\n' :: rest | '\r' :: '\n' :: rest => (readLongLiteral rest).map fun (cs, rest) => ('\n' :: cs, rest)
  | c :: rest => if isPlain c then (readLongLiteral rest).map fun (cs, rest) => (c :: cs, rest) else none

/-- Reads a string of any kind. -/
def readString : List Char → Option (List Char × List Char)
  | '"' :: '"' :: '"' :: rest => readLongBasic (dropLineBreak rest)
  | '"' :: rest => readBasic rest
  | '\'' :: '\'' :: '\'' :: rest => readLongLiteral (dropLineBreak rest)
  | '\'' :: rest => readLiteral rest
  | _ => none

/-! ## Keys -/

/-- The characters of bare keys. -/
def isKeyChar (c : Char) : Bool := c.isAlphanum || c == '-' || c == '_'

/-- Reads a key without dots. -/
def readKeyPart : List Char → Option (List Char × List Char)
  | '"' :: rest => readBasic rest
  | '\'' :: rest => readLiteral rest
  | text =>
    let name := text.takeWhile isKeyChar
    if name.isEmpty then none else some (name, text.dropWhile isKeyChar)

/-- Reads keys with dots between them, of which the last is apart, and the blanks around them. There are at most as
many as `limit` says. -/
def readKey : (limit : Nat) → List Char → Option (List String × String × List Char)
  | 0, _ => none
  | limit + 1, text => do
    let (part, rest) ← readKeyPart (skipBlanks text)
    match skipBlanks rest with
    | '.' :: rest =>
      let (path, key, rest) ← readKey limit rest
      return (String.ofList part :: path, key, rest)
    | rest => return ([], String.ofList part, rest)

end Bookmarklet.Toml
