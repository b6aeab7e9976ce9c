/-!
# Fresh names

The names `a` to `z`, `aa`, `ab` and so on, in order of length and then of the alphabet (`FreshName.spell`), and the
first of them that is not taken (`FreshName.next`).
-/

namespace Bookmarklet.Script.FreshName

/-- The letter with a number below 26. -/
def letter (n : Nat) : Char := Char.ofNat ('a'.toNat + n)

/-- Puts the letters of a name before those already found, the last letter first. -/
def spellBefore : Nat → Nat → List Char → List Char
  | 0, _, rest => rest
  | fuel + 1, n, rest =>
    let rest := letter (n % 26) :: rest
    if n < 26 then rest else spellBefore fuel (n / 26 - 1) rest

/-- The name with a number. -/
def spell (n : Nat) : List Char := spellBefore (n + 1) n []

/-- Looks for a name that is not taken, from a number on; of so many names as are taken and one more, one is free. -/
def search (taken : List (List Char)) : Nat → Nat → Nat
  | 0, n => n
  | fuel + 1, n => if taken.contains (spell n) then search taken fuel (n + 1) else n

/-- The number of the first name from a number on that is not taken. -/
def next (taken : List (List Char)) (n : Nat) : Nat := search taken taken.length n

end Bookmarklet.Script.FreshName
