import Bookmarklet.Json.Decimal
import Bookmarklet.Text.Digit
import Bookmarklet.Toml.Table

/-!
# TOML values without quotes or brackets

Numbers, truth values, dates and times are words of letters, digits and a few signs. A word is first read to its end
and then told what it is (`ofWord?`). Only a date may be two words, with a space before its time.
-/

namespace Bookmarklet.Toml

/-- The characters of words. -/
def isWordChar (c : Char) : Bool := c.isAlphanum || ['+', '-', '_', '.', ':'].contains c

/-! ## Numbers -/

/-- Digits without the underscores between them; each underscore stands between two digits. -/
def ungroup? (isDigit : Char → Bool) : List Char → Option (List Char)
  | [c] => if isDigit c then some [c] else none
  | c :: '_' :: rest => if isDigit c then (ungroup? isDigit rest).map (c :: ·) else none
  | c :: rest => if isDigit c then (ungroup? isDigit rest).map (c :: ·) else none
  | [] => none

/-- Whether a character is a digit up to 15. -/
def isHexDigit (c : Char) : Bool := (Text.hexValue? c).isSome

/-- Whether a character is a digit up to 7. -/
def isOctalDigit (c : Char) : Bool := '0' ≤ c && c ≤ '7'

/-- Whether a character is a digit up to 1. -/
def isBinaryDigit (c : Char) : Bool := c == '0' || c == '1'

/-- The whole number that digits spell, in which underscores are allowed. -/
def natural? (base : Nat) (isDigit : Char → Bool) (word : List Char) : Option Nat :=
  (ungroup? isDigit word).map (Text.digitsValue base)

/-- Whether decimal digits start with a zero that says nothing. -/
def hasIdleZero : List Char → Bool
  | '0' :: _ :: _ => true
  | _ => false

/-- The whole number that decimal digits spell. -/
def decimal? (word : List Char) : Option Nat := if hasIdleZero word then none else natural? 10 Char.isDigit word

/-- The sign at the start of a word, and what follows it. -/
def splitSign : List Char → Bool × List Char
  | '-' :: rest => (true, rest)
  | '+' :: rest => (false, rest)
  | word => (false, word)

/-- The numbers that can be represented: those of 64 bits with a sign. -/
def representable (n : Int) : Bool := -9223372036854775808 ≤ n && n < 9223372036854775808

/-- The whole number that a word spells. -/
def integer? (word : List Char) : Option Int :=
  let n? : Option Int :=
    match word with
    | '0' :: 'x' :: digits => (natural? 16 isHexDigit digits).map Int.ofNat
    | '0' :: 'o' :: digits => (natural? 8 isOctalDigit digits).map Int.ofNat
    | '0' :: 'b' :: digits => (natural? 2 isBinaryDigit digits).map Int.ofNat
    | _ =>
      let (negative, digits) := splitSign word
      (decimal? digits).map fun n => if negative then -(n : Int) else n
  n?.filter representable

/-- Whether a character belongs to grouped decimal digits. -/
def isGroupChar (c : Char) : Bool := c.isDigit || c == '_'

/-- The number behind the mark of an exponent. -/
def exponent? : List Char → Option Int
  | mark :: rest =>
    let (negative, digits) := splitSign rest
    if mark == 'e' || mark == 'E' then
      (natural? 10 Char.isDigit digits).map fun n => if negative then -(n : Int) else n
    else none
  | [] => none

/-- The number that a word spells with a point or an exponent or both. -/
def decimalFraction? (word : List Char) : Option Decimal := do
  let (negative, text) := splitSign word
  let whole := text.takeWhile isGroupChar
  let _ ← decimal? whole
  let (places, text) :=
    match text.dropWhile isGroupChar with
    | '.' :: rest => (some (rest.takeWhile isGroupChar), rest.dropWhile isGroupChar)
    | rest => (none, rest)
  let places ←
    match places with
    | none => if text.isEmpty then none else some []
    | some places => ungroup? Char.isDigit places
  let exponent ← if text.isEmpty then some 0 else exponent? text
  return ⟨negative, Text.digitsValue 10 ((← ungroup? Char.isDigit whole) ++ places), exponent - places.length⟩

/-- Whether a word spells a fraction. A positive one must not be too great for 64 bits. -/
def isFraction (word : List Char) : Bool :=
  match decimalFraction? word with
  | some d => d.negative || d.rounded?.isSome
  | none => ["inf".toList, "nan".toList].contains (splitSign word).2

/-! ## Dates and times -/

/-- The number that two digits spell, if it lies between two bounds. -/
def pair? (low high : Nat) (a b : Char) : Option Nat :=
  if a.isDigit && b.isDigit then
    let n := Text.digitsValue 10 [a, b]
    if low ≤ n && n ≤ high then some n else none
  else none

/-- How many days a month has. -/
def daysIn (year month : Nat) : Nat :=
  if month = 2 then if year % 4 = 0 ∧ (year % 100 ≠ 0 ∨ year % 400 = 0) then 29 else 28
  else if month = 4 ∨ month = 6 ∨ month = 9 ∨ month = 11 then 30
  else 31

/-- What follows a date. -/
def afterDate? : List Char → Option (List Char)
  | a :: b :: c :: d :: '-' :: m :: n :: '-' :: x :: y :: rest => do
    let year := 100 * (← pair? 0 99 a b) + (← pair? 0 99 c d)
    let month ← pair? 1 12 m n
    let _ ← pair? 1 (daysIn year month) x y
    return rest
  | _ => none

/-- What follows the hour and the minute. -/
def afterMinute? : List Char → Option (List Char)
  | a :: b :: ':' :: c :: d :: rest => do
    let _ ← pair? 0 23 a b
    let _ ← pair? 0 59 c d
    return rest
  | _ => none

/-- What follows a time. -/
def afterTime? (text : List Char) : Option (List Char) := do
  match ← afterMinute? text with
  | ':' :: a :: b :: rest =>
    let _ ← pair? 0 60 a b
    match rest with
    | '.' :: c :: rest => if c.isDigit then return rest.dropWhile Char.isDigit else none
    | _ => return rest
  | _ => none

/-- Whether a text is nothing, or says how far a time is from that of the zero meridian. -/
def isOffset : List Char → Bool
  | [] | ['Z'] | ['z'] => true
  | sign :: rest => (sign == '+' || sign == '-') && afterMinute? rest = some []

/-- Whether a word spells a date, a time, or both. -/
def isMoment (word : List Char) : Bool :=
  match afterDate? word with
  | some [] => true
  | some (mark :: rest) => ['T', 't', ' '].contains mark && (afterTime? rest).any isOffset
  | none => afterTime? word = some []

/-! ## Words -/

/-- The value of a word. -/
def ofWord? (word : List Char) : Option Value :=
  if word = "true".toList then some (.boolean true)
  else if word = "false".toList then some (.boolean false)
  else
    match integer? word with
    | some n => some (.integer n)
    | none => if isFraction word then some .fraction else if isMoment word then some .moment else none

/-- Splits a word off a text, or a date and a time with a space between them. -/
def splitWord (text : List Char) : List Char × List Char :=
  let word := text.takeWhile isWordChar
  match afterDate? word, text.dropWhile isWordChar with
  | some [], ' ' :: c :: rest =>
    if c.isDigit then (word ++ ' ' :: (c :: rest).takeWhile isWordChar, (c :: rest).dropWhile isWordChar)
    else (word, ' ' :: c :: rest)
  | _, rest => (word, rest)

/-- Reads a value that is a word. -/
def readWord (text : List Char) : Option (Value × List Char) :=
  let (word, rest) := splitWord text
  (ofWord? word).map (·, rest)

end Bookmarklet.Toml
