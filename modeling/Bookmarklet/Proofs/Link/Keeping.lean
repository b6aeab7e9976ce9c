import Mathlib.Data.Set.Card
import Bookmarklet.Proofs.Link.Cache
import Bookmarklet.Proofs.Link.Calls

/-!
# What caches keep

* Calls are within a capacity if never more than so many scripts have been asked for since links were dropped
  (`WithinCapacity`). Then a cache has room for all links (`Cache.hasRoom_of_withinCapacity`), and the scripts of those
  that it keeps are those that have been asked for (`Cache.keys_after`).
* A stamp belongs to one script for ever (`Cache.Owns.after`), and a link that is kept is handed out until it is
  dropped (`Cache.lookup_after`).

So of what is recorded, a link is the one that a build gives (`link_of_record`), a script is found if and only if it has
been asked for (`held_of_record`), and links are the very same for one script until they are dropped, but never for two
(`same_of_record`).
-/

namespace Bookmarklet.Link

/-! ## What has been asked for -/

/-- A script was asked for, and links were not dropped since. -/
def Since (calls : List Call) (source : String) : Prop :=
  ∃ earlier number later, calls = earlier ++ .ask number (.generate source) :: later ∧ ∀ n, .ask n .clear ∉ later

/-- At no time have more scripts been asked for since links were dropped. -/
def WithinCapacity (capacity : Nat) (calls : List Call) : Prop :=
  ∀ front, front <+: calls → {source | Since front source}.encard ≤ capacity

/-- What a call adds to the scripts that have been asked for. -/
def note (found : List String) : Call → List String
  | .ask _ (.generate source) => found.insert source
  | .ask _ .clear => []
  | _ => found

/-- The scripts that have been asked for since links were dropped, the last one first. -/
def recent (calls : List Call) : List String := calls.foldl note []

theorem recent_concat (calls : List Call) (call : Call) : recent (calls ++ [call]) = note (recent calls) call := by
  rw [recent, List.foldl_append]
  rfl

theorem since_concat {calls : List Call} {call : Call} {source : String} :
    Since (calls ++ [call]) source
      ↔ (∃ n, call = .ask n (.generate source)) ∨ Since calls source ∧ ∀ n, call ≠ .ask n .clear := by
  constructor
  · rintro ⟨earlier, number, later, heq, hlater⟩
    rcases List.eq_nil_or_concat' later with rfl | ⟨front, last, rfl⟩
    · obtain ⟨-, hcall⟩ := List.append_inj' heq rfl
      exact .inl ⟨number, (List.cons.inj hcall).1⟩
    · rw [← List.cons_append, ← List.append_assoc] at heq
      obtain ⟨rfl, hcall⟩ := List.append_inj' heq rfl
      obtain ⟨rfl, -⟩ := List.cons.inj hcall
      refine .inr ⟨⟨earlier, number, front, rfl, fun n hn => hlater n (List.mem_append_left _ hn)⟩, fun n hn => ?_⟩
      exact hlater n (by simp [hn])
  · rintro (⟨n, rfl⟩ | ⟨⟨earlier, number, later, rfl, hlater⟩, hcall⟩)
    · exact ⟨calls, n, [], rfl, fun _ => List.not_mem_nil⟩
    · refine ⟨earlier, number, later ++ [call], by simp, fun n hn => ?_⟩
      rcases List.mem_append.1 hn with hn | hn
      · exact hlater n hn
      · exact hcall n (List.mem_singleton.1 hn).symm

theorem mem_recent {calls : List Call} {source : String} : source ∈ recent calls ↔ Since calls source := by
  induction calls using List.reverseRecOn with
  | nil =>
    refine iff_of_false List.not_mem_nil ?_
    rintro ⟨earlier, number, later, heq, -⟩
    cases earlier <;> cases heq
  | append_singleton calls call ih =>
    rw [recent_concat, since_concat, ← ih]
    cases call with
    | copy number => simp [note]
    | ask number operation => cases operation <;> simp [note, eq_comm]

theorem nodup_recent (calls : List Call) : (recent calls).Nodup := by
  induction calls using List.reverseRecOn with
  | nil => exact List.nodup_nil
  | append_singleton calls call ih =>
    rw [recent_concat]
    cases call with
    | copy number => exact ih
    | ask number operation =>
      cases operation with
      | generate source => exact ih.insert
      | contains source => exact ih
      | clear => exact List.nodup_nil

theorem withinCapacity_iff {capacity : Nat} {calls : List Call} :
    WithinCapacity capacity calls ↔ ∀ front, front <+: calls → (recent front).length ≤ capacity := by
  have hcard (front : List Call) : {source | Since front source}.encard = (recent front).length := by
    have hset : {source | Since front source} = ((recent front).toFinset : Set String) := by
      ext source
      simp [mem_recent]
    rw [hset, Set.encard_coe_eq_coe_finsetCard, List.toFinset_card_of_nodup (nodup_recent front)]
  simp only [WithinCapacity, hcard, Nat.cast_le]

/-! ## Caches that keep all links -/

namespace Cache

/-- Answers a question. -/
def perform (c : Cache) : Operation → Answer × Cache
  | .generate source => (.link (c.generate source).1, (c.generate source).2)
  | .contains source => (.held (c.contains source), c)
  | .clear => (.done, c.clear)

section Generate

variable {c : Cache} {source : String}

theorem generate_of_some {kept : Kept} (h : c.kept.lookup source = some kept) : c.generate source = (kept, c) := by
  rw [generate, h]

/-- A link that is not kept is built, and is kept if there is room. -/
theorem generate_of_none (h : c.kept.lookup source = none) :
    c.generate source = (⟨build source, c.built⟩,
      ⟨c.capacity, if c.kept.length < c.capacity then (source, ⟨build source, c.built⟩) :: c.kept else c.kept,
        c.built + 1⟩) := by
  rw [generate, h]

end Generate

/-- A turn leaves a cache as it was, or drops its links, or builds a link that is not kept; then there may be room for
it or not. -/
theorem turn_cases (c : Cache) (call : Call) :
    (turn perform c call).2 = c ∨ (∃ n, call = .ask n .clear) ∧ (turn perform c call).2 = c.clear
      ∨ ∃ source links, c.kept.lookup source = none ∧ (turn perform c call).2 = ⟨c.capacity, links, c.built + 1⟩
        ∧ (links = c.kept ∨ links = (source, ⟨build source, c.built⟩) :: c.kept) := by
  cases call with
  | copy number => exact .inl rfl
  | ask number operation =>
    cases operation with
    | contains source => exact .inl rfl
    | clear => exact .inr (.inl ⟨⟨number, rfl⟩, rfl⟩)
    | generate source =>
      cases h : c.kept.lookup source with
      | some kept =>
        left
        rw [turn, perform, generate_of_some h]
      | none =>
        right; right
        rw [turn, perform, generate_of_none h]
        refine ⟨source, _, h, rfl, ?_⟩
        split
        · exact .inr rfl
        · exact .inl rfl

/-- A turn keeps a cache faithful. -/
theorem Faithful.turn {c : Cache} (h : c.Faithful) (call : Call) : (turn perform c call).2.Faithful := by
  cases call with
  | copy number => exact h
  | ask number operation =>
    cases operation with
    | generate source => exact h.generate source
    | contains source => exact h
    | clear => exact .clear c

/-! ## Stamps -/

/-- A stamp has been given, and no link of another script has it. -/
structure Owns (c : Cache) (source : String) (stamp : Nat) : Prop where
  lt : stamp < c.built
  unique : ∀ other kept, (other, kept) ∈ c.kept → kept.stamp = stamp → other = source

/-- Each kept link has the stamp of its script. -/
def Stamped (c : Cache) : Prop := ∀ source kept, (source, kept) ∈ c.kept → c.Owns source kept.stamp

section Stamps

variable {c : Cache} {source : String} {stamp : Nat}

/-- A stamp stays that of its script. -/
theorem Owns.turn (h : c.Owns source stamp) (call : Call) : (turn perform c call).2.Owns source stamp := by
  obtain hsame | ⟨-, hclear⟩ | ⟨new, links, -, hbuild, hlinks⟩ := c.turn_cases call
  · rwa [hsame]
  · rw [hclear]
    exact ⟨h.lt, fun other kept hm => by cases hm⟩
  · rw [hbuild]
    have hlt := h.lt
    refine ⟨by simp only; omega, fun other kept hm heq => ?_⟩
    rcases hlinks with rfl | rfl
    · exact h.unique other kept hm heq
    · rcases List.mem_cons.1 hm with hm | hm
      · -- the new stamp is greater
        obtain ⟨rfl, rfl⟩ := Prod.mk.inj hm
        simp only at heq
        omega
      · exact h.unique other kept hm heq

/-- The stamps of the kept links have been given. -/
theorem Stamped.lt (h : c.Stamped) {kept : Kept} (hm : (source, kept) ∈ c.kept) : kept.stamp < c.built :=
  (h source kept hm).lt

theorem Stamped.turn (h : c.Stamped) (call : Call) : (turn perform c call).2.Stamped := by
  intro source kept hm
  obtain hsame | ⟨-, hclear⟩ | ⟨new, links, -, hbuild, hlinks⟩ := c.turn_cases call
  · rw [hsame] at hm ⊢
    exact h source kept hm
  · rw [hclear] at hm
    cases hm
  · by_cases hold : (source, kept) ∈ c.kept
    · exact (h source kept hold).turn call
    · rw [hbuild] at hm ⊢
      rcases hlinks with rfl | rfl
      · exact absurd hm hold
      · obtain ⟨rfl, rfl⟩ := Prod.mk.inj ((List.mem_cons.1 hm).resolve_right hold)
        refine ⟨Nat.lt_succ_self _, fun other kept hm heq => ?_⟩
        have hnew : (other, kept) ∉ c.kept := fun hm => Nat.ne_of_lt (h.lt hm) heq
        exact (Prod.mk.inj ((List.mem_cons.1 hm).resolve_right hnew)).1

/-- The stamp of a link that is handed out is that of its script. -/
theorem Stamped.owns_generate (h : c.Stamped) (source : String) :
    (c.generate source).2.Owns source (c.generate source).1.stamp := by
  cases hlookup : c.kept.lookup source with
  | some kept =>
    rw [generate_of_some hlookup]
    exact h source kept (mem_of_lookup_eq_some hlookup)
  | none =>
    rw [generate_of_none hlookup]
    refine ⟨Nat.lt_succ_self _, fun other kept hm heq => ?_⟩
    have hnew : (other, kept) ∉ c.kept := fun hm => Nat.ne_of_lt (h.lt hm) heq
    simp only at hm
    split at hm
    · exact (Prod.mk.inj ((List.mem_cons.1 hm).resolve_right hnew)).1
    · exact absurd hm hnew

/-- A link for another script has another stamp. -/
theorem Owns.ne_generate (h : c.Owns source stamp) {other : String} (hne : source ≠ other) :
    stamp ≠ (c.generate other).1.stamp := by
  cases hlookup : c.kept.lookup other with
  | some kept =>
    rw [generate_of_some hlookup]
    intro heq
    exact hne (h.unique other kept (mem_of_lookup_eq_some hlookup) heq.symm).symm
  | none =>
    rw [generate_of_none hlookup]
    have hlt := h.lt
    simp only
    omega

end Stamps

/-! ## Room -/

/-- A cache has room for the link that a call makes it build. -/
def HasPlace (c : Cache) (call : Call) : Prop :=
  ∀ n source, call = .ask n (.generate source) → c.kept.lookup source = none → c.kept.length < c.capacity

/-- A cache has room for each link that calls make it build. -/
def HasRoom (c : Cache) : List Call → Prop
  | [] => True
  | call :: calls => c.HasPlace call ∧ (turn perform c call).2.HasRoom calls

variable {c : Cache}

/-- Where there is room, the scripts of the kept links are those that have been asked for. -/
theorem keys_turn {call : Call} (h : c.HasPlace call) :
    (turn perform c call).2.kept.map (·.1) = note (c.kept.map (·.1)) call := by
  cases call with
  | copy number => rfl
  | ask number operation =>
    cases operation with
    | contains source => rfl
    | clear => rfl
    | generate source =>
      rw [turn, perform, note]
      cases hlookup : c.kept.lookup source with
      | some kept =>
        have hmem : source ∈ c.kept.map (·.1) := List.mem_map.2 ⟨_, mem_of_lookup_eq_some hlookup, rfl⟩
        rw [generate_of_some hlookup, List.insert_of_mem hmem]
      | none =>
        rw [generate_of_none hlookup, List.insert_of_not_mem (not_mem_of_lookup_eq_none hlookup)]
        simp only [if_pos (h number source rfl hlookup), List.map_cons]

theorem capacity_turn (c : Cache) (call : Call) : (turn perform c call).2.capacity = c.capacity := by
  obtain hsame | ⟨-, hclear⟩ | ⟨_, _, -, hbuild, -⟩ := c.turn_cases call
  · rw [hsame]
  · rw [hclear]
    rfl
  · rw [hbuild]

/-- Within its capacity, a cache has room. -/
theorem hasRoom_of_recent {front calls : List Call} (hkeys : c.kept.map (·.1) = recent front)
    (h : ∀ later, later <+: calls → (recent (front ++ later)).length ≤ c.capacity) : c.HasRoom calls := by
  induction calls generalizing c front with
  | nil => trivial
  | cons call calls ih =>
    have hplace : c.HasPlace call := by
      rintro n source rfl hlookup
      have hle := h [.ask n (.generate source)] ⟨calls, rfl⟩
      have hnot : source ∉ recent front := hkeys ▸ not_mem_of_lookup_eq_none hlookup
      rw [recent_concat, note, List.insert_of_not_mem hnot, List.length_cons, ← hkeys, List.length_map] at hle
      exact hle
    have hnext : (turn perform c call).2.kept.map (·.1) = recent (front ++ [call]) := by
      rw [keys_turn hplace, hkeys, recent_concat]
    refine ⟨hplace, ih hnext fun later hlater => ?_⟩
    rw [capacity_turn, List.append_assoc]
    exact h (call :: later) ((List.prefix_cons_inj call).2 hlater)

/-- A link that is kept stays so until all are dropped. -/
theorem lookup_turn {source : String} {kept : Kept} (h : c.kept.lookup source = some kept) {call : Call}
    (hcall : ∀ n, call ≠ .ask n .clear) : (turn perform c call).2.kept.lookup source = some kept := by
  obtain hsame | ⟨⟨n, hclear⟩, -⟩ | ⟨new, links, hnew, hbuild, hlinks⟩ := c.turn_cases call
  · rwa [hsame]
  · exact absurd hclear (hcall n)
  · rw [hbuild]
    rcases hlinks with rfl | rfl
    · exact h
    · have hne : source ≠ new := by
        rintro rfl
        rw [hnew] at h
        cases h
      rwa [lookup_cons_of_ne hne]

/-- A link is kept once it was handed out, if there is room. -/
theorem lookup_generate {source : String} (h : c.kept.lookup source = none → c.kept.length < c.capacity) :
    (c.generate source).2.kept.lookup source = some (c.generate source).1 := by
  cases hlookup : c.kept.lookup source with
  | some kept => rwa [generate_of_some hlookup]
  | none =>
    rw [generate_of_none hlookup]
    simp only [if_pos (h hlookup), List.lookup_cons_self]

/-! ## Runs of calls -/

theorem Faithful.after (h : c.Faithful) (calls : List Call) : (after perform c calls).Faithful :=
  after_induction perform (fun _ call h => h.turn call) h calls

theorem Stamped.after (h : c.Stamped) (calls : List Call) : (after perform c calls).Stamped :=
  after_induction perform (fun _ call h => h.turn call) h calls

theorem Owns.after {source : String} {stamp : Nat} (h : c.Owns source stamp) (calls : List Call) :
    (after perform c calls).Owns source stamp :=
  after_induction perform (P := fun c => c.Owns source stamp) (fun _ call h => h.turn call) h calls

theorem lookup_after {source : String} {kept : Kept} {calls : List Call} (h : c.kept.lookup source = some kept)
    (hcalls : ∀ n, .ask n .clear ∉ calls) : (after perform c calls).kept.lookup source = some kept := by
  induction calls generalizing c with
  | nil => exact h
  | cons call calls ih =>
    refine ih (lookup_turn h fun n hn => hcalls n (by simp [hn])) fun n hn => ?_
    exact hcalls n (List.mem_cons_of_mem call hn)

theorem hasRoom_append {front calls : List Call} (h : c.HasRoom (front ++ calls)) :
    (after perform c front).HasRoom calls := by
  induction front generalizing c with
  | nil => exact h
  | cons call front ih => exact ih h.2

theorem keys_after {front calls : List Call} (h : c.HasRoom (front ++ calls)) :
    (after perform c front).kept.map (·.1) = front.foldl note (c.kept.map (·.1)) := by
  induction front generalizing c with
  | nil => rfl
  | cons call front ih =>
    have hrest := ih h.2
    rw [keys_turn h.1] at hrest
    exact hrest

theorem hasRoom_of_withinCapacity {capacity : Nat} {calls : List Call} (h : WithinCapacity capacity calls) :
    (empty capacity).HasRoom calls := by
  have hkeys : (empty capacity).kept.map (·.1) = recent [] := rfl
  exact hasRoom_of_recent hkeys (withinCapacity_iff.1 h)

end Cache

/-! ## What is recorded -/

section Record

variable {c : Cache} {calls : List Call} {front rest : List (Call × Answer)} {source : String} {n : Nat}

/-- What is handed out is what a build gives. -/
theorem link_of_record (hfaithful : c.Faithful) {answer : Answer}
    (h : record Cache.perform c calls = front ++ (.ask n (.generate source), answer) :: rest) :
    ∃ kept, answer = .link kept ∧ kept.link = build source := by
  obtain ⟨rfl, -⟩ := record_eq_append _ h
  exact ⟨_, rfl, (hfaithful.after _).link_generate source⟩

/-- What is found has been asked for. -/
theorem held_of_record (hempty : c.kept = []) (hroom : c.HasRoom calls) {answer : Answer}
    (h : record Cache.perform c calls = front ++ (.ask n (.contains source), answer) :: rest) :
    ∃ held, answer = .held held ∧ (held = true ↔ Since (front.map (·.1)) source) := by
  obtain ⟨rfl, later, rfl, -⟩ := record_eq_append _ h
  have hkeys := Cache.keys_after hroom
  rw [hempty] at hkeys
  refine ⟨_, rfl, ?_⟩
  rw [← mem_recent, recent, ← List.map_nil (f := fun e : String × Kept => e.1), ← hkeys]
  exact isSome_lookup_iff

/-- Links are the very same for one script, until they are dropped, and never for two. -/
theorem same_of_record (hstamped : c.Stamped) (hroom : c.HasRoom calls) {kept kept' : Kept} {source' : String}
    {n' : Nat} {middle : List (Call × Answer)}
    (h : record Cache.perform c calls = front ++ (.ask n (.generate source), .link kept)
      :: (middle ++ (.ask n' (.generate source'), .link kept') :: rest)) :
    (source ≠ source' → kept.stamp ≠ kept'.stamp)
      ∧ (source = source' → (∀ n answer, (.ask n .clear, answer) ∉ middle) → kept = kept') := by
  obtain ⟨hkept, later, rfl, hlater⟩ := record_eq_append _ h
  obtain ⟨hkept', _, rfl, -⟩ := record_eq_append _ hlater.symm
  have hplace := (Cache.hasRoom_append hroom).1
  have hfirst := (hstamped.after (front.map (·.1))).owns_generate source
  -- the cache that hands out the first link, and what leads from it to the second
  cases hkept
  cases hkept'
  constructor
  · intro hne
    exact (hfirst.after _).ne_generate hne
  · rintro rfl hmiddle
    have hkeeps : ∀ n, .ask n .clear ∉ middle.map (·.1) := by
      intro n hn
      obtain ⟨⟨_, answer⟩, hm, rfl⟩ := List.mem_map.1 hn
      exact hmiddle n answer hm
    have hlookup := Cache.lookup_generate (hplace n source rfl)
    have hlast := Cache.lookup_after hlookup hkeeps
    rw [← (Prod.mk.inj (Cache.generate_of_some hlast)).1]
    rfl

end Record

end Bookmarklet.Link
