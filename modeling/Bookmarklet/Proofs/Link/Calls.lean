import Bookmarklet.Link.Cache

/-!
# Calls of caches that share a store

A cache can be copied, and each copy refers to the store of the cache that it was copied from (`Copies`). What is called
through the copies of one cache is answered as if it was all called through that cache (`record_copies`), so that one
store stands for all copies.
-/

namespace Bookmarklet.Link

/-- What a cache is asked. -/
inductive Operation where
  | generate (source : String)
  | contains (source : String)
  | clear
  deriving DecidableEq

/-- What a cache answers. -/
inductive Answer where
  | link (kept : Kept)
  | held (value : Bool)
  | done
  deriving DecidableEq

/-- What is done with the copies of a cache; they are numbered as they come about. -/
inductive Call where
  /-- Makes one more copy of a copy. -/
  | copy (number : Nat)
  | ask (number : Nat) (operation : Operation)
  deriving DecidableEq

section Stores

variable {σ : Type} (perform : σ → Operation → Answer × σ)

/-! ## One store -/

/-- What a call does to the one store of all copies. -/
def turn (s : σ) : Call → Answer × σ
  | .copy _ => (.done, s)
  | .ask _ operation => perform s operation

/-- The store that calls leave behind. -/
def after (s : σ) (calls : List Call) : σ := calls.foldl (fun s call => (turn perform s call).2) s

/-- What every turn keeps, all calls keep. -/
theorem after_induction {P : σ → Prop} (hturn : ∀ s call, P s → P (turn perform s call).2) {s : σ} (h : P s)
    (calls : List Call) : P (after perform s calls) := by
  induction calls generalizing s with
  | nil => exact h
  | cons call calls ih => exact ih (hturn s call h)

/-- The calls with their answers. -/
def record (s : σ) : List Call → List (Call × Answer)
  | [] => []
  | call :: calls => (call, (turn perform s call).1) :: record (turn perform s call).2 calls

theorem map_record (s : σ) (calls : List Call) : (record perform s calls).map (·.1) = calls := by
  induction calls generalizing s with
  | nil => rfl
  | cons call calls ih => rw [record, List.map_cons, ih]

/-- What has been recorded up to an answer are the calls before it, and it was given by the store that these left. -/
theorem record_eq_append {s : σ} {call : Call} {answer : Answer} {rest : List (Call × Answer)} :
    ∀ {front : List (Call × Answer)} {calls : List Call}, record perform s calls = front ++ (call, answer) :: rest →
      answer = (turn perform (after perform s (front.map (·.1))) call).1
        ∧ ∃ later, calls = front.map (·.1) ++ call :: later
          ∧ rest = record perform (turn perform (after perform s (front.map (·.1))) call).2 later := by
  intro front
  induction front generalizing s with
  | nil =>
    intro calls h
    cases calls with
    | nil => cases h
    | cons first calls =>
      obtain ⟨hfirst, rfl⟩ := List.cons.inj h
      obtain ⟨rfl, rfl⟩ := Prod.mk.inj hfirst
      exact ⟨rfl, calls, rfl, rfl⟩
  | cons entry front ih =>
    intro calls h
    cases calls with
    | nil => cases h
    | cons first calls =>
      obtain ⟨rfl, htail⟩ := List.cons.inj h
      obtain ⟨hanswer, later, rfl, hrest⟩ := ih htail
      exact ⟨hanswer, later, rfl, hrest⟩

/-! ## Copies -/

/-- The stores in memory, and the number of its store for each copy. -/
structure Copies (σ : Type) where
  stores : List σ
  references : List Nat

namespace Copies

/-- One cache. -/
def single (s : σ) : Copies σ := ⟨[s], [0]⟩

/-- Answers a call through a copy, if there is that copy. A copy gets the reference of the cache that it is copied
from. -/
def call (c : Copies σ) : Call → Option (Answer × Copies σ)
  | .copy number => do
    let reference ← c.references[number]?
    return (.done, { c with references := c.references ++ [reference] })
  | .ask number operation => do
    let reference ← c.references[number]?
    let s ← c.stores[reference]?
    let (answer, s) := perform s operation
    return (answer, { c with stores := c.stores.set reference s })

/-- The calls with their answers. -/
def record (c : Copies σ) : List Call → Option (List (Call × Answer))
  | [] => some []
  | call :: calls => do
    let (answer, c) ← c.call perform call
    let rest ← c.record calls
    return (call, answer) :: rest

end Copies

/-- All calls go through copies that exist; so many there are before the first call. -/
def AreProper : Nat → List Call → Prop
  | _, [] => True
  | n, .copy number :: calls => number < n ∧ AreProper (n + 1) calls
  | n, .ask number _ :: calls => number < n ∧ AreProper n calls

instance decidableAreProper : (n : Nat) → (calls : List Call) → Decidable (AreProper n calls)
  | _, [] => inferInstanceAs (Decidable True)
  | n, .copy number :: calls =>
    have := decidableAreProper (n + 1) calls
    inferInstanceAs (Decidable (number < n ∧ AreProper (n + 1) calls))
  | n, .ask number _ :: calls =>
    have := decidableAreProper n calls
    inferInstanceAs (Decidable (number < n ∧ AreProper n calls))

theorem call_copies (s : σ) {n number : Nat} (h : number < n) (operation : Operation) :
    Copies.call perform ⟨[s], List.replicate n 0⟩ (.ask number operation)
      = some ((perform s operation).1, ⟨[(perform s operation).2], List.replicate n 0⟩) := by
  have hreference : (List.replicate n 0)[number]? = some 0 := by simp [h]
  simp [Copies.call, hreference]

/-- The copies of one cache answer as one store does. -/
theorem record_copies {n : Nat} {calls : List Call} (s : σ) (h : AreProper n calls) :
    Copies.record perform ⟨[s], List.replicate n 0⟩ calls = some (record perform s calls) := by
  induction calls generalizing n s with
  | nil => rfl
  | cons call calls ih =>
    cases call with
    | copy number =>
      have hreference : (List.replicate n 0)[number]? = some 0 := by simp [h.1]
      have hrest := ih s h.2
      rw [List.replicate_succ'] at hrest
      simp [Copies.record, Copies.call, hreference, hrest, record, turn]
    | ask number operation =>
      simp [Copies.record, call_copies perform s h.1, ih _ h.2, record, turn]

end Stores
end Bookmarklet.Link
