import Mathlib.Data.List.Nodup

/-!
# Look-up in lists of pairs

What `List.lookup` finds under a key is a pair of the list (`mem_of_lookup_eq_some`), and where no two pairs have one
key, it finds each pair under its key (`lookup_eq_some_iff_mem`).
-/

namespace Bookmarklet

section Lookup

variable {α β : Type} [BEq α] [LawfulBEq α] {l : List (α × β)} {k : α} {v : β}

theorem mem_of_lookup_eq_some (h : l.lookup k = some v) : (k, v) ∈ l := by
  obtain ⟨l₁, l₂, rfl, -⟩ := List.lookup_eq_some_iff.1 h
  simp

theorem lookup_eq_some_of_mem (hn : (l.map (·.1)).Nodup) (hm : (k, v) ∈ l) : l.lookup k = some v := by
  induction l with
  | nil => cases hm
  | cons e l ih =>
    obtain ⟨a, b⟩ := e
    rw [List.map_cons, List.nodup_cons] at hn
    rw [List.lookup_cons]
    rcases List.mem_cons.1 hm with heq | hrest
    · cases heq
      simp
    · have hne : k ≠ a := by
        rintro rfl
        exact hn.1 (List.mem_map.2 ⟨_, hrest, rfl⟩)
      rw [beq_false_of_ne hne]
      exact ih hn.2 hrest

theorem lookup_eq_some_iff_mem (hn : (l.map (·.1)).Nodup) : l.lookup k = some v ↔ (k, v) ∈ l :=
  ⟨mem_of_lookup_eq_some, lookup_eq_some_of_mem hn⟩

/-- Nothing is found for a key that is not there. -/
theorem lookup_eq_none_of_not_mem (h : k ∉ l.map (·.1)) : l.lookup k = none := by
  refine List.lookup_eq_none_iff.2 fun p hp => ?_
  rw [bne_iff_ne]
  rintro rfl
  exact h (List.mem_map_of_mem hp)

/-- A key for which nothing is found is not there. -/
theorem not_mem_of_lookup_eq_none (h : l.lookup k = none) : k ∉ l.map (·.1) := by
  intro hk
  obtain ⟨p, hp, rfl⟩ := List.mem_map.1 hk
  simpa using List.lookup_eq_none_iff.1 h p hp

/-- Something is found exactly for the keys that are there. -/
theorem isSome_lookup_iff : (l.lookup k).isSome ↔ k ∈ l.map (·.1) := by
  constructor
  · intro h
    obtain ⟨v, hv⟩ := Option.isSome_iff_exists.1 h
    exact List.mem_map.2 ⟨(k, v), mem_of_lookup_eq_some hv, rfl⟩
  · intro h
    rw [Option.isSome_iff_ne_none]
    intro hnone
    exact not_mem_of_lookup_eq_none hnone h

/-- A pair makes no difference for other keys. -/
theorem lookup_cons_of_ne {a : α} (h : k ≠ a) : ((a, v) :: l).lookup k = l.lookup k := by
  rw [List.lookup_cons, beq_false_of_ne h]

/-- What is found under a key does not depend on the other keys. -/
theorem lookup_filter_key {p : α → Bool} (h : p k) : (l.filter fun e => p e.1).lookup k = l.lookup k := by
  induction l with
  | nil => rfl
  | cons e l ih =>
    obtain ⟨a, b⟩ := e
    rw [List.lookup_cons, List.filter_cons]
    cases hne : k == a with
    | true =>
      rw [beq_iff_eq] at hne
      subst hne
      rw [if_pos h, List.lookup_cons, beq_self_eq_true]
    | false =>
      split
      · rw [List.lookup_cons, hne, ih]
      · rw [ih]

end Lookup

end Bookmarklet
