import Bookmarklet.Link.Cache
import Bookmarklet.Proofs.Lookup

/-!
# Caches hand out what a build would give

* A cache that was filled by `Cache.generate` alone, emptied, or robbed of some links (`Cache.Reachable`) is
  faithful: every link that it keeps for a script is the link of that script (`Cache.Reachable.faithful`).
* A faithful cache answers with the link that a direct build gives, and stays faithful (`Cache.Faithful.link_generate`,
  `Cache.Faithful.generate`).
-/

namespace Bookmarklet.Link.Cache

/-- Every link that a cache keeps is the link of the script that it is kept for. -/
def Faithful (c : Cache) : Prop := ∀ source kept, (source, kept) ∈ c.kept → kept.link = build source

/-- The caches that come about: empty ones, and those that follow by building through them, by clearing them, and by
dropping any of their links. -/
inductive Reachable : Cache → Prop
  | empty (capacity : Nat) : Reachable (empty capacity)
  | generate {c : Cache} (source : String) : Reachable c → Reachable (c.generate source).2
  | clear {c : Cache} : Reachable c → Reachable c.clear
  | evict {c : Cache} {rest : List (String × Kept)} : Reachable c → rest.Sublist c.kept →
      Reachable { c with kept := rest }

/-! ## Faithful caches -/

section Faithful

variable {c : Cache}

theorem Faithful.empty (capacity : Nat) : Faithful (empty capacity) := fun _ _ h => by cases h

theorem Faithful.clear (c : Cache) : Faithful c.clear := fun _ _ h => by cases h

/-- Fewer links tell no more lies. -/
theorem Faithful.evict (h : Faithful c) {rest : List (String × Kept)} (hs : rest.Sublist c.kept) :
    Faithful { c with kept := rest } :=
  fun source kept hm => h source kept (hs.subset hm)

/-- A faithful cache answers as a direct build does. -/
theorem Faithful.link_generate (h : Faithful c) (source : String) : (c.generate source).1.link = build source := by
  unfold generate
  cases hl : c.kept.lookup source with
  | some kept => exact h source kept (mem_of_lookup_eq_some hl)
  | none => rfl

/-- Building through a faithful cache keeps it faithful. -/
theorem Faithful.generate (h : Faithful c) (source : String) : Faithful (c.generate source).2 := by
  unfold Cache.generate
  cases hl : c.kept.lookup source with
  | some _ => exact h
  | none =>
    intro name kept hm
    simp only at hm
    split at hm
    · rcases List.mem_cons.1 hm with heq | hm
      · cases heq
        rfl
      · exact h name kept hm
    · exact h name kept hm

end Faithful

/-- Every cache that comes about is faithful. -/
theorem Reachable.faithful {c : Cache} (h : Reachable c) : Faithful c := by
  induction h with
  | empty capacity => exact .empty capacity
  | generate source _ ih => exact ih.generate source
  | clear _ _ => exact .clear _
  | evict _ hs ih => exact ih.evict hs

end Bookmarklet.Link.Cache
