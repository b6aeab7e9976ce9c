import Bookmarklet.Json.Decimal
import Bookmarklet.Text.Digit

/-!
# Reading JSON

`Json.parse?` reads a value. The members of an object come in the order of their names, and of members with one name
the last counts. Whole numbers of 64 bits are kept as such, other numbers as decimals.
-/

namespace Bookmarklet.Json

/-- Blanks between tokens. -/
def isBlank (c : Char) : Bool := c == ' ' || c == '\n' || c == '\r' || c == '\t'

/-- A text from its first token on. -/
def skip (text : List Char) : List Char := text.dropWhile isBlank

/-! ## Texts -/

/-- The value of four hexadecimal digits. -/
def unit? (a b c d : Char) : Option Nat := do
  return (((← Text.hexValue? a) * 16 + (← Text.hexValue? b)) * 16 + (← Text.hexValue? c)) * 16 + (← Text.hexValue? d)

/-- The character that an escape of one letter stands for. -/
def escaped? : Char → Option Char
  | '"' => some '"'
  | '\\' => some '\\'
  | '/' => some '/'
  | 'b' => some '\x08'
  | 'f' => some '\x0c'
  | 'n' => some '\n'
  | 'r' => some '\r'
  | 't' => some '\t'
  | _ => none

/-- Reads a text behind its opening quote: its code points, with surrogates where it was escaped so, and the rest. -/
def readUnits : List Char → Option (List Nat × List Char)
  | [] => none
  | '"' :: rest => some ([], rest)
  | '\\' :: 'u' :: a :: b :: c :: d :: rest => do
    let unit ← unit? a b c d
    let (units, rest) ← readUnits rest
    return (unit :: units, rest)
  | '\\' :: c :: rest => do
    let c ← escaped? c
    let (units, rest) ← readUnits rest
    return (c.toNat :: units, rest)
  | c :: rest =>
    if c.toNat < 32 then none
    else do
      let (units, rest) ← readUnits rest
      return (c.toNat :: units, rest)

/-- The text of code points, where pairs of surrogates make one character. -/
def joinUnits : List Nat → List Char
  | [] => []
  | [unit] => [Char.ofNat unit]
  | high :: low :: rest =>
    if 0xd800 ≤ high && high < 0xdc00 && 0xdc00 ≤ low && low < 0xe000 then
      Char.ofNat (0x10000 + (high - 0xd800) * 0x400 + (low - 0xdc00)) :: joinUnits rest
    else Char.ofNat high :: joinUnits (low :: rest)

/-- Reads a text behind its opening quote. -/
def readString (text : List Char) : Option (String × List Char) :=
  (readUnits text).map fun (units, rest) => (String.ofList (joinUnits units), rest)

/-! ## Numbers -/

/-- Splits digits off a text. -/
def readDigits (text : List Char) : List Char × List Char := (text.takeWhile Char.isDigit, text.dropWhile Char.isDigit)

/-- Reads the part of a number behind a point, if there is one. -/
def readFraction : List Char → List Char × List Char
  | '.' :: rest => readDigits rest
  | text => ([], text)

/-- Reads the digits of an exponent behind its sign. -/
def readExponentDigits (negative : Bool) (text : List Char) : Int × List Char :=
  let (digits, rest) := readDigits text
  (if negative then -(Text.digitsValue 10 digits : Int) else Text.digitsValue 10 digits, rest)

/-- Reads the exponent of a number, if there is one. -/
def readExponent : List Char → Option Int × List Char
  | c :: rest =>
    if c == 'e' || c == 'E' then
      let (exponent, rest) :=
        match rest with
        | '-' :: rest => readExponentDigits true rest
        | '+' :: rest => readExponentDigits false rest
        | _ => readExponentDigits false rest
      (some exponent, rest)
    else (none, c :: rest)
  | [] => (none, [])

/-- A number from its parts: whole if nothing but digits stands there and it has 64 bits. -/
def number? (negative : Bool) (whole fraction : List Char) (exponent : Option Int) : Option Json :=
  let n := Text.digitsValue 10 whole
  let fits := if negative then 0 < n && n ≤ 9223372036854775808 else n < 18446744073709551616
  if fraction.isEmpty && exponent.isNone && fits then some (integer (if negative then -(n : Int) else n))
  else
    (Decimal.rounded? ⟨negative, Text.digitsValue 10 (whole ++ fraction), exponent.getD 0 - fraction.length⟩).map decimal

/-- Reads a number behind its sign. -/
def readNumber (negative : Bool) (text : List Char) : Option (Json × List Char) :=
  let (whole, text) := readDigits text
  let (fraction, text) := readFraction text
  let (exponent, text) := readExponent text
  if whole.isEmpty then none else (number? negative whole fraction exponent).map (·, text)

/-! ## Values -/

/-- Puts a member among members in the order of their names. -/
def insertMember (name : String) (value : Json) : List (String × Json) → List (String × Json)
  | [] => [(name, value)]
  | (other, v) :: rest =>
    if name < other then (name, value) :: (other, v) :: rest
    else if name = other then (name, value) :: rest
    else (other, v) :: insertMember name value rest

/-- A value that is spelled with letters. -/
def readWord (word : String) (value : Json) (text : List Char) : Option (Json × List Char) :=
  if word.toList.isPrefixOf text then some (value, text.drop word.length) else none

mutual
/-- Reads a value; `fuel` bounds the number of steps. -/
def readValue : (fuel : Nat) → List Char → Option (Json × List Char)
  | 0, _ => none
  | fuel + 1, text =>
    match skip text with
    | '"' :: rest => (readString rest).map fun (s, rest) => (string s, rest)
    | '[' :: rest =>
      match skip rest with
      | ']' :: rest => some (array [], rest)
      | _ => readItems fuel [] rest
    | '\x7b' :: rest =>
      match skip rest with
      | '\x7d' :: rest => some (object [], rest)
      | _ => readMembers fuel [] rest
    | '-' :: rest => readNumber true rest
    | 't' :: rest => readWord "rue" (bool true) rest
    | 'f' :: rest => readWord "alse" (bool false) rest
    | 'n' :: rest => readWord "ull" null rest
    | rest => readNumber false rest

/-- Reads the items of an array behind those already read. -/
def readItems : (fuel : Nat) → List Json → List Char → Option (Json × List Char)
  | 0, _, _ => none
  | fuel + 1, items, text => do
    let (item, rest) ← readValue fuel text
    match skip rest with
    | ',' :: rest => readItems fuel (item :: items) rest
    | ']' :: rest => some (array (item :: items).reverse, rest)
    | _ => none

/-- Reads the members of an object beside those already read. -/
def readMembers : (fuel : Nat) → List (String × Json) → List Char → Option (Json × List Char)
  | 0, _, _ => none
  | fuel + 1, members, text =>
    match skip text with
    | '"' :: rest => do
      let (name, rest) ← readString rest
      match skip rest with
      | ':' :: rest => do
        let (value, rest) ← readValue fuel rest
        let members := insertMember name value members
        match skip rest with
        | ',' :: rest => readMembers fuel members rest
        | '\x7d' :: rest => some (object members, rest)
        | _ => none
      | _ => none
    | _ => none
end

/-- The value that a text spells. -/
def parse? (text : String) : Option Json :=
  match readValue (2 * text.length + 2) text.toList with
  | some (value, rest) => if (skip rest).isEmpty then some value else none
  | none => none

end Bookmarklet.Json
