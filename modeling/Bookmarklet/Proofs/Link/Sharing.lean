import Bookmarklet.Proofs.Link.Keeping

/-!
# Caches cannot be told from builds

A cache may keep its links in any store that loses nothing as long as it is not full (`Store.IsLawful`), under digests
of scripts. Where no two scripts have one digest, it answers as a cache that keeps them by scripts (`record_keyed`).
With what is known of such caches, and with the copies of a cache in its place, this gives `record_shared`.
-/

namespace Bookmarklet.Link

/-! ## Stores -/

/-- A store of links by keys. -/
structure Store (Key : Type) where
  State : Type
  /-- How many links are kept. -/
  capacity : Nat
  empty : State
  get? : State → Key → Option Kept
  insert : State → Key → Kept → State
  clear : State → State

/-- A store loses nothing as long as it is not full: what is inserted while fewer links are kept than the capacity is
found, and so is what was found before. -/
structure Store.IsLawful {Key : Type} [DecidableEq Key] (store : Store Key) : Prop where
  get?_empty : ∀ key, store.get? store.empty key = none
  get?_clear : ∀ state key, store.get? (store.clear state) key = none
  get?_insert : ∀ state (keys : List Key), (∀ key, (store.get? state key).isSome → key ∈ keys) →
    keys.length < store.capacity → ∀ key kept other,
      store.get? (store.insert state key kept) other = if other = key then some kept else store.get? state other

/-- A cache that keeps its links in a store. -/
structure Keyed {Key : Type} (store : Store Key) where
  state : store.State
  /-- How many links were built. -/
  built : Nat

namespace Keyed

variable {Key : Type} {store : Store Key} (digest : String → Key)

/-- A cache that keeps nothing yet. -/
def empty (store : Store Key) : Keyed store := ⟨store.empty, 0⟩

/-- The link for a script, built only if none is found under the digest of the script. -/
def generate (c : Keyed store) (source : String) : Kept × Keyed store :=
  match store.get? c.state (digest source) with
  | some kept => (kept, c)
  | none => (⟨build source, c.built⟩, ⟨store.insert c.state (digest source) ⟨build source, c.built⟩, c.built + 1⟩)

/-- Answers a question. -/
def perform (c : Keyed store) : Operation → Answer × Keyed store
  | .generate source => (.link (c.generate digest source).1, (c.generate digest source).2)
  | .contains source => (.held (store.get? c.state (digest source)).isSome, c)
  | .clear => (.done, ⟨store.clear c.state, c.built⟩)

end Keyed

/-- The script that a call asks about. -/
def Call.source? : Call → Option String
  | .ask _ (.generate source) | .ask _ (.contains source) => some source
  | _ => none

/-- The scripts that calls ask about. -/
def scripts (calls : List Call) : List String := calls.filterMap Call.source?

section Digests

variable {Key : Type} {store : Store Key} {digest : String → Key} {sources : Set String}

/-- What a store keeps under digests is what a cache keeps for the scripts. -/
structure Agrees (digest : String → Key) (sources : Set String) (k : Keyed store) (c : Cache) : Prop where
  capacity : c.capacity = store.capacity
  built : k.built = c.built
  get? : ∀ source ∈ sources, store.get? k.state (digest source) = c.kept.lookup source
  keys : ∀ key, (store.get? k.state key).isSome → key ∈ c.kept.map fun e => digest e.1

/-- A store in which nothing is found agrees with a cache that keeps nothing. -/
theorem Agrees.of_none {k : Keyed store} {c : Cache} (h : ∀ key, store.get? k.state key = none) (hkept : c.kept = [])
    (hcapacity : c.capacity = store.capacity) (hbuilt : k.built = c.built) : Agrees digest sources k c where
  capacity := hcapacity
  built := hbuilt
  get? source _ := by
    rw [h, hkept, List.lookup_nil]
  keys key hkey := by
    rw [h key] at hkey
    cases hkey

variable [DecidableEq Key]

/-- A link that is kept on both sides is found on both sides. -/
theorem Agrees.insert (hstore : store.IsLawful) (hdigest : Set.InjOn digest sources) {k : Keyed store} {c : Cache}
    (h : Agrees digest sources k c) (hroom : c.kept.length < c.capacity) {source : String} (hsource : source ∈ sources)
    (kept : Kept) (built : Nat) :
    Agrees digest sources ⟨store.insert k.state (digest source) kept, built⟩
      ⟨c.capacity, (source, kept) :: c.kept, built⟩ := by
  -- the store is not full, so it loses nothing
  have hlt : (c.kept.map fun e => digest e.1).length < store.capacity := by rwa [List.length_map, ← h.capacity]
  have hinsert := hstore.get?_insert k.state _ h.keys hlt (digest source) kept
  refine ⟨h.capacity, rfl, fun other hother => ?_, fun key hkey => ?_⟩
  · rw [hinsert]
    by_cases heq : other = source
    · rw [heq, if_pos rfl, List.lookup_cons_self]
    · have hne : digest other ≠ digest source := fun hsame => heq (hdigest hother hsource hsame)
      rw [if_neg hne, lookup_cons_of_ne heq]
      exact h.get? other hother
  · simp only [hinsert] at hkey
    rw [List.map_cons, List.mem_cons]
    by_cases heq : key = digest source
    · exact .inl heq
    · rw [if_neg heq] at hkey
      exact .inr (h.keys key hkey)

/-- A turn is answered alike. -/
theorem Agrees.turn (hstore : store.IsLawful) (hdigest : Set.InjOn digest sources) {k : Keyed store} {c : Cache}
    (h : Agrees digest sources k c) {call : Call} (hcall : ∀ source ∈ call.source?, source ∈ sources)
    (hplace : c.HasPlace call) :
    (turn (Keyed.perform digest) k call).1 = (turn Cache.perform c call).1
      ∧ Agrees digest sources (turn (Keyed.perform digest) k call).2 (turn Cache.perform c call).2 := by
  cases call with
  | copy number => exact ⟨rfl, h⟩
  | ask number operation =>
    cases operation with
    | clear => exact ⟨rfl, .of_none (hstore.get?_clear k.state) rfl h.capacity h.built⟩
    | contains source =>
      have hget := h.get? source (hcall source rfl)
      refine ⟨?_, h⟩
      simp only [Bookmarklet.Link.turn, Keyed.perform, Cache.perform, Cache.contains, hget]
    | generate source =>
      have hget := h.get? source (hcall source rfl)
      cases hlookup : c.kept.lookup source with
      | some kept =>
        rw [hlookup] at hget
        have hkeyed : k.generate digest source = (kept, k) := by rw [Keyed.generate, hget]
        simp only [Bookmarklet.Link.turn, Keyed.perform, Cache.perform, hkeyed, Cache.generate_of_some hlookup]
        exact ⟨trivial, h⟩
      | none =>
        have hlt := hplace number source rfl hlookup
        rw [hlookup] at hget
        have hkeyed : k.generate digest source = (⟨build source, c.built⟩,
            ⟨store.insert k.state (digest source) ⟨build source, c.built⟩, c.built + 1⟩) := by
          rw [Keyed.generate, hget, h.built]
        simp only [Bookmarklet.Link.turn, Keyed.perform, Cache.perform, hkeyed, Cache.generate_of_none hlookup,
          if_pos hlt]
        exact ⟨trivial, h.insert hstore hdigest hlt (hcall source rfl) _ _⟩

/-- Where no two scripts have one digest, and there is room, calls are answered as if links were kept by scripts. -/
theorem record_keyed (hstore : store.IsLawful) {calls : List Call} {k : Keyed store} {c : Cache}
    (hdigest : Set.InjOn digest sources) (hcalls : ∀ source ∈ scripts calls, source ∈ sources)
    (h : Agrees digest sources k c) (hroom : c.HasRoom calls) :
    record (Keyed.perform digest) k calls = record Cache.perform c calls := by
  induction calls generalizing k c with
  | nil => rfl
  | cons call calls ih =>
    have hcall : ∀ source ∈ call.source?, source ∈ sources := by
      intro source hs
      exact hcalls source (List.mem_filterMap.2 ⟨call, List.mem_cons_self, hs⟩)
    obtain ⟨hanswer, hrest⟩ := h.turn hstore hdigest hcall hroom.1
    have hlater : ∀ source ∈ scripts calls, source ∈ sources := by
      intro source hs
      obtain ⟨other, hm, hs⟩ := List.mem_filterMap.1 hs
      exact hcalls source (List.mem_filterMap.2 ⟨other, List.mem_cons_of_mem call hm, hs⟩)
    rw [record, record, hanswer, ih hlater hrest hroom.2]

end Digests

/-! ## Copies of a cache -/

/-- Whatever is called through the copies of a cache within its capacity, and whatever lawful store it keeps its links
in, under digests that differ for the scripts in question: the calls are answered, and as by a cache that keeps its
links by scripts. A link that is handed out is the one that a build gives. A script is found if and only if it was asked
for, through any copy, since links were dropped through any. Two links that are handed out are the very same if they
are for one script and no links were dropped between them, and never if they are for two. -/
theorem record_shared {Key : Type} [DecidableEq Key] {store : Store Key} (hstore : store.IsLawful)
    {digest : String → Key} {calls : List Call} (hproper : AreProper 1 calls)
    (hcapacity : WithinCapacity store.capacity calls) (hdigest : Set.InjOn digest {source | source ∈ scripts calls}) :
    ∃ history, (Copies.single (Keyed.empty store)).record (Keyed.perform digest) calls = some history
      ∧ (Copies.single (Cache.empty store.capacity)).record Cache.perform calls = some history
      ∧ history.map (·.1) = calls
      ∧ (∀ n source answer, (.ask n (.generate source), answer) ∈ history →
          ∃ kept, answer = .link kept ∧ kept.link = build source)
      ∧ (∀ front n source answer rest, history = front ++ (.ask n (.contains source), answer) :: rest →
          ∃ held, answer = .held held ∧ (held = true ↔ Since (front.map (·.1)) source))
      ∧ ∀ front n source kept middle n' source' kept' rest,
          history = front ++ (.ask n (.generate source), .link kept)
            :: (middle ++ (.ask n' (.generate source'), .link kept') :: rest) →
          (source ≠ source' → kept.stamp ≠ kept'.stamp)
            ∧ (source = source' → (∀ n answer, (.ask n .clear, answer) ∉ middle) → kept = kept') := by
  have hroom := Cache.hasRoom_of_withinCapacity hcapacity
  have hfaithful := Cache.Faithful.empty store.capacity
  have hstamped : (Cache.empty store.capacity).Stamped := fun source kept hm => by cases hm
  have hagrees : Agrees digest {source | source ∈ scripts calls} (.empty store) (.empty store.capacity) :=
    .of_none hstore.get?_empty rfl rfl rfl
  have hkeyed := record_keyed hstore hdigest (fun _ h => h) hagrees hroom
  refine ⟨record Cache.perform (.empty store.capacity) calls, ?_, record_copies _ _ hproper, map_record _ _ _,
    ?_, ?_, ?_⟩
  · rw [← hkeyed]
    exact record_copies _ _ hproper
  · intro n source answer hm
    obtain ⟨front, rest, h⟩ := List.append_of_mem hm
    exact link_of_record hfaithful h
  · intro front n source answer rest h
    exact held_of_record rfl hroom h
  · intro front n source kept middle n' source' kept' rest h
    exact same_of_record hstamped hroom h

/-- A store that keeps nothing more when it is full. -/
def Store.bounded (Key : Type) [DecidableEq Key] (capacity : Nat) : Store Key where
  State := List (Key × Kept)
  capacity := capacity
  empty := []
  get? state key := state.lookup key
  insert state key kept := if (state.map (·.1)).dedup.length < capacity then (key, kept) :: state else state
  clear _ := []

theorem lookup_bounded {Key : Type} [DecidableEq Key] {capacity : Nat} {state : List (Key × Kept)} {keys : List Key}
    (hkeys : ∀ key, (state.lookup key).isSome → key ∈ keys) (hlt : keys.length < capacity) (key : Key) (kept : Kept)
    (other : Key) :
    (if (state.map (·.1)).dedup.length < capacity then (key, kept) :: state else state).lookup other
      = if other = key then some kept else state.lookup other := by
  have hsubset : (state.map (·.1)).dedup ⊆ keys := by
    intro found hm
    exact hkeys found (isSome_lookup_iff.2 (List.mem_dedup.1 hm))
  have hle := ((List.nodup_dedup (state.map (·.1))).subperm hsubset).length_le
  rw [if_pos (Nat.lt_of_le_of_lt hle hlt)]
  by_cases heq : other = key
  · rw [heq, if_pos rfl, List.lookup_cons_self]
  · rw [if_neg heq, lookup_cons_of_ne heq]

theorem Store.isLawful_bounded (Key : Type) [DecidableEq Key] (capacity : Nat) : (bounded Key capacity).IsLawful where
  get?_empty _ := rfl
  get?_clear _ _ := rfl
  get?_insert _ _ hkeys hlt key kept other := lookup_bounded hkeys hlt key kept other

/-- Two copies of a cache that keeps two links under the BLAKE3 hashes of their scripts. -/
theorem record_shared_two :
    let calls : List Call := [.ask 0 (.generate "f( )"), .copy 0, .ask 1 (.generate "f( )"), .ask 1 (.generate "g"),
      .ask 1 .clear, .ask 0 (.contains "g"), .ask 0 (.generate "f( )"), .ask 1 (.contains "f( )")]
    let hash : String → BitVec 256 := fun source =>
      if source = "g" then 0x805a31dee1a2a0d3fbe08c612de4fe6be78166a3c4d3a4db7805ad839ed47d4d#256
      else 0xa3447e93807f3d4f7a654581cab54d3332d73dc68fbca96be4c46d846be6b876#256
    let store := Store.bounded (BitVec 256) 2
    store.IsLawful ∧ AreProper 1 calls ∧ WithinCapacity 2 calls ∧ Set.InjOn hash {source | source ∈ scripts calls}
      ∧ ∃ history, (Copies.single (Keyed.empty store)).record (Keyed.perform hash) calls = some history
        ∧ (Copies.single (Cache.empty 2)).record Cache.perform calls = some history := by
  intro calls hash store
  have hstore : store.IsLawful := Store.isLawful_bounded (BitVec 256) 2
  have hproper : AreProper 1 calls := by decide
  have hcapacity : WithinCapacity 2 calls := by
    rw [withinCapacity_iff]
    intro front hfront
    have hall : ∀ front ∈ calls.inits, (recent front).length ≤ 2 := by decide
    exact hall front ((List.mem_inits front calls).2 hfront)
  have hdigest : Set.InjOn hash {source | source ∈ scripts calls} := by
    have hall : ∀ source ∈ scripts calls, ∀ other ∈ scripts calls, hash source = hash other → source = other := by
      decide
    exact fun source hs other ho h => hall source hs other ho h
  obtain ⟨history, hkeyed, hcache, -⟩ := record_shared hstore hproper hcapacity hdigest
  exact ⟨hstore, hproper, hcapacity, hdigest, history, hkeyed, hcache⟩

end Bookmarklet.Link
