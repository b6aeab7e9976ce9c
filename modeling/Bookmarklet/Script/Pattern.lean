/-!
# Patterns of tokens

Regular expressions over characters, matched by taking derivatives: `p.derive c` matches what may follow `c` in a
match of `p`. A pattern that can match nothing at all is always written `fail`, so a match is lost as soon as no
continuation could complete it.
-/

namespace Bookmarklet.Script

/-- A set of characters, by ranges of scalar values. -/
inductive CharSet where
  | only (ranges : List (Nat × Nat))
  | except (ranges : List (Nat × Nat))

/-- Whether a set contains a character. -/
def CharSet.contains : CharSet → Char → Bool
  | only ranges, c => ranges.any fun (low, high) => low.ble c.toNat && c.toNat.ble high
  | except ranges, c => !ranges.any fun (low, high) => low.ble c.toNat && c.toNat.ble high

/-- A regular expression over characters. -/
inductive Pattern where
  | fail
  | empty
  | one (set : CharSet)
  | literal (text : List Char)
  | seq (first second : Pattern)
  | alt (left right : Pattern)
  | star (body : Pattern)

namespace Pattern

/-- Whether a pattern matches the empty text. -/
def nullable : Pattern → Bool
  | fail => false
  | empty => true
  | one _ => false
  | literal text => text.isEmpty
  | seq p q => p.nullable && q.nullable
  | alt p q => p.nullable || q.nullable
  | star _ => true

/-- Whether a pattern is written as the one that matches nothing. -/
def isFail : Pattern → Bool
  | fail => true
  | _ => false

/-- One pattern after another, simplified at its ends. -/
def andThen : Pattern → Pattern → Pattern
  | fail, _ => fail
  | empty, q => q
  | p, q => seq p q

/-- One of two patterns, simplified where one matches nothing. -/
def orElse : Pattern → Pattern → Pattern
  | fail, q => q
  | p, fail => p
  | p, q => alt p q

/-- What may follow a character in a match of a pattern. -/
def derive (c : Char) : Pattern → Pattern
  | fail => fail
  | empty => fail
  | one set => if set.contains c then empty else fail
  | literal [] => fail
  | literal (d :: rest) => if c = d then (if rest.isEmpty then empty else literal rest) else fail
  | seq p q =>
    if p.nullable then orElse (andThen (derive c p) q) (derive c q) else andThen (derive c p) q
  | alt p q => orElse (derive c p) (derive c q)
  | star p => andThen (derive c p) (star p)

/-- A fixed text. -/
def ofString (s : String) : Pattern := literal s.toList

/-- One pattern after another, for any number of them. -/
def all : List Pattern → Pattern
  | [] => empty
  | [p] => p
  | p :: ps => seq p (all ps)

/-- One of several patterns. -/
def any : List Pattern → Pattern
  | [] => fail
  | [p] => p
  | p :: ps => alt p (any ps)

/-- A pattern or nothing. -/
def optional (p : Pattern) : Pattern := alt p empty

/-- A pattern one or more times. -/
def plus (p : Pattern) : Pattern := seq p (star p)

/-- A pattern as many times as given. -/
def times (p : Pattern) : Nat → Pattern
  | 0 => empty
  | 1 => p
  | n + 1 => seq p (times p n)

/-- A pattern at most as many times as given. -/
def upTo (p : Pattern) : Nat → Pattern
  | 0 => empty
  | n + 1 => optional (seq p (upTo p n))

end Pattern
end Bookmarklet.Script
