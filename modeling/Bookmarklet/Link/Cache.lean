import Bookmarklet.Link.Build

/-!
# Links built before

A cache keeps the links that were built, so that a script is minified once. `Cache.generate` hands out the kept link,
which can be told from an equal one by its stamp. Copies of a cache share what they keep, so one value stands for all
of them.
-/

namespace Bookmarklet.Link

/-- A link that was built through a cache; no two builds have the same stamp. -/
structure Kept where
  link : Link
  stamp : Nat
  deriving DecidableEq

/-- The links built so far, by their scripts. -/
structure Cache where
  /-- How many links are kept. -/
  capacity : Nat
  kept : List (String × Kept)
  /-- How many links were built. -/
  built : Nat

namespace Cache

/-- How many links are kept, unless told otherwise. -/
def defaultCapacity : Nat := 256

/-- A cache that keeps nothing yet. -/
def empty (capacity : Nat) : Cache := ⟨capacity, [], 0⟩

/-- Whether the link for a script is kept. -/
def contains (c : Cache) (source : String) : Bool := (c.kept.lookup source).isSome

/-- The link for a script, built only if it is not kept. A cache that is full keeps no further links. -/
def generate (c : Cache) (source : String) : Kept × Cache :=
  match c.kept.lookup source with
  | some kept => (kept, c)
  | none =>
    let new : Kept := ⟨build source, c.built⟩
    let kept := if c.kept.length < c.capacity then (source, new) :: c.kept else c.kept
    (new, { c with kept, built := c.built + 1 })

/-- The cache without any link. -/
def clear (c : Cache) : Cache := { c with kept := [] }

end Cache
end Bookmarklet.Link
