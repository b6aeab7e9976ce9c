/-!
# Digits

Hexadecimal digits are read in small letters and in capitals (`hexValue?`), and written in either (`hexDigit`). The first
of them are those of the smaller bases (`digitsValue`).
-/

namespace Bookmarklet.Text

/-- The value of a hexadecimal digit. -/
def hexValue? (c : Char) : Option Nat :=
  if c.isDigit then some (c.toNat - '0'.toNat)
  else if 'a' ≤ c && c ≤ 'f' then some (c.toNat - 'a'.toNat + 10)
  else if 'A' ≤ c && c ≤ 'F' then some (c.toNat - 'A'.toNat + 10)
  else none

/-- The hexadecimal digit with a value below 16, where `ten` is the one with the value ten. -/
def hexDigit (ten : Char) (n : Nat) : Char := Char.ofNat (if n < 10 then '0'.toNat + n else ten.toNat + (n - 10))

/-- The number that digits spell in a base up to sixteen. -/
def digitsValue (base : Nat) (digits : List Char) : Nat :=
  digits.foldl (fun n c => base * n + (hexValue? c).getD 0) 0

end Bookmarklet.Text
