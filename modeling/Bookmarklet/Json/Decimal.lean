import Bookmarklet.Json.Value

/-!
# Decimal fractions

A decimal fraction is read as the binary64 number nearest to it, and that number is written with the fewest digits
that read back as it. All steps are exact: a positive binary64 number is a pair of a significand below 2^53 and a
power of two.
-/

namespace Bookmarklet

/-- A power of two. -/
def twoTo (n : Nat) : Nat := Nat.pow 2 n

/-- A power of ten. -/
def tenTo (n : Nat) : Nat := Nat.pow 10 n

/-- A fraction as numerator and denominator, from a product of powers of two and ten. -/
def scaled (n : Nat) (two ten : Int) : Nat × Nat :=
  (n * twoTo two.toNat * tenTo ten.toNat, twoTo (-two).toNat * tenTo (-ten).toNat)

/-- A positive binary64 number: `significand` times two to the power of `power`. -/
structure Binary64 where
  significand : Nat
  power : Int

namespace Binary64

/-- The quotient of two numbers, rounded to the nearest whole number, and to the even one halfway. -/
def roundQuotient (a b : Nat) : Nat :=
  let q := a / b
  if a % b * 2 < b then q else if b < a % b * 2 then q + 1 else q + q % 2

/-- The number nearest to a positive fraction; none if that is too great. -/
def nearest? (a b : Nat) : Option Binary64 :=
  let power := max (-1074) ((a.log2 : Int) - b.log2 - 53)
  let round (power : Int) := roundQuotient (a * twoTo (-power).toNat) (b * twoTo power.toNat)
  let power := if round power < twoTo 53 then power else power + 1
  let s := round power
  let (s, power) := if s = twoTo 53 then (twoTo 52, power + 1) else (s, power)
  if power ≤ 971 then some ⟨s, power⟩ else none

/-- Whether a decimal lies nearer to a number than to any other. -/
def isNamedBy (x : Binary64) (digits : Nat) (exponent : Int) : Bool :=
  let below := if x.significand = twoTo 52 && -1074 < x.power then 1 else 2
  let (a, b) := scaled (4 * digits) 0 exponent
  let (lowA, lowB) := scaled (4 * x.significand - below) x.power 0
  let (highA, highB) := scaled (4 * x.significand + 2) x.power 0
  if x.significand % 2 = 0 then lowA * b ≤ a * lowB && a * highB ≤ highA * b
  else lowA * b < a * lowB && a * highB < highA * b

/-- The decimal with a given last place that is nearest to a number, if it names that number. -/
def onGrid? (x : Binary64) (exponent : Int) : Option (Nat × Int) :=
  let (a, b) := scaled x.significand x.power (-exponent)
  let digits := a / b
  let (first, second) := if a % b * 2 ≤ b then (digits, digits + 1) else (digits + 1, digits)
  if x.isNamedBy first exponent then some (first, exponent)
  else if x.isNamedBy second exponent then some (second, exponent)
  else none

/-- The decimal with the fewest digits that names a number: the last place is tried from the greatest down. -/
def shortestFrom (x : Binary64) : Nat → Int → Nat × Int
  | 0, exponent => (x.significand, exponent)
  | fuel + 1, exponent => (x.onGrid? exponent).getD (shortestFrom x fuel (exponent - 1))

/-- The decimal with the fewest digits that names a number. -/
def shortest (x : Binary64) : Nat × Int := shortestFrom x 700 309

end Binary64

namespace Decimal

/-- Removes zeros at the end of the digits. -/
def normal : Nat → Decimal → Decimal
  | 0, d => d
  | fuel + 1, d =>
    if d.digits ≠ 0 && d.digits % 10 = 0 then
      normal fuel { d with digits := d.digits / 10, exponent := d.exponent + 1 }
    else d

/-- The decimal that stands for the same binary64 number with the fewest digits; none if there is no such number. -/
def rounded? (d : Decimal) : Option Decimal :=
  let magnitude := d.exponent + (Nat.toDigits 10 d.digits).length
  if d.digits = 0 ∨ magnitude < -400 then some { d with digits := 0, exponent := 0 }
  else if 400 < magnitude then none
  else
    let (a, b) := scaled d.digits 0 d.exponent
    (Binary64.nearest? a b).map fun x =>
      if x.significand = 0 then { d with digits := 0, exponent := 0 }
      else
        let (digits, exponent) := x.shortest
        normal 400 { d with digits, exponent }

/-- A decimal in positional notation, with at least one digit on each side of the point. -/
def text (d : Decimal) : String :=
  let digits := (toString d.digits).toList
  let sign := if d.negative then "-" else ""
  if 0 ≤ d.exponent then
    let zeros := if d.digits = 0 then 0 else d.exponent.toNat
    sign ++ String.ofList (digits ++ List.replicate zeros '0') ++ ".0"
  else
    let places := (-d.exponent).toNat
    let digits := List.replicate (places + 1 - digits.length) '0' ++ digits
    let whole := digits.length - places
    sign ++ String.ofList (digits.take whole) ++ "." ++ String.ofList (digits.drop whole)

end Decimal
end Bookmarklet
