import Mathlib.Data.List.Shortlex
import Mathlib.Data.Nat.Nth
import Mathlib.Data.Set.Card
import Bookmarklet.Proofs.Script.FreshLocals

/-!
# Fresh names come in order

Names are the words of small letters (`FreshName.IsName`), in order of length and then of the alphabet
(`FreshName.Precedes`).

* Every name is spelled by one number (`FreshName.bijOn_spell`), and greater numbers spell later names
  (`FreshName.precedes_spell`).
* Trying one number after the other ends, at the number that `FreshName.next` finds (`FreshName.tries_iff`). No available
  name is left out: as many lie below this number as below the one from which the search began
  (`FreshName.count_next`).
* A supply of names gives them in order, however often it is asked before a name is taken
  (`FreshName.Supply.available_peek_run`), and so does a plan: each local that changes gets the first name that is left
  (`Plan.available_mapping`).
-/

namespace Bookmarklet.Script.FreshName

/-- A name of small letters. -/
def IsName (w : List Char) : Prop := w ≠ [] ∧ ∀ c ∈ w, 'a' ≤ c ∧ c ≤ 'z'

/-- Shorter names come first, and names of one length in the order of the alphabet. -/
abbrev Precedes : List Char → List Char → Prop := List.Shortlex (· < ·)

/-! ## Letters -/

theorem letter_lt_letter {m n : Nat} (h : m < n) (hn : n < 26) : letter m < letter n := by
  have hall : ∀ n < 26, ∀ m < n, letter m < letter n := by decide
  exact hall n hn m h

theorem letter_bounds {n : Nat} (h : n < 26) : 'a' ≤ letter n ∧ letter n ≤ 'z' := by
  have hall : ∀ n < 26, 'a' ≤ letter n ∧ letter n ≤ 'z' := by decide
  exact hall n h

theorem exists_letter {c : Char} (h : 'a' ≤ c ∧ c ≤ 'z') : ∃ n < 26, letter n = c := by
  have hlow : 97 ≤ c.toNat := h.1
  have hhigh : c.toNat ≤ 122 := h.2
  refine ⟨c.toNat - 97, by omega, ?_⟩
  have hnat : 'a'.toNat + (c.toNat - 97) = c.toNat := by
    show 97 + (c.toNat - 97) = c.toNat
    omega
  rw [letter, hnat, Char.ofNat_toNat]

/-! ## Numbers and names -/

/-- The numbers from 26 on spell the name of a number with a letter behind it. -/
theorem spell_append (k : Nat) {m : Nat} (h : m < 26) : spell (26 * (k + 1) + m) = spell k ++ [letter m] := by
  have hdiv : (26 * (k + 1) + m) / 26 - 1 = k := by omega
  have hmod : (26 * (k + 1) + m) % 26 = m := by omega
  rw [spell_eq, if_neg (by omega), hdiv, hmod]

/-- The numbers below 26 spell the letters. -/
theorem spell_of_lt {n : Nat} (h : n < 26) : spell n = [letter n] := by
  rw [spell_eq, if_pos h, Nat.mod_eq_of_lt h, List.nil_append]

/-- A number is below 26, or one of those that put a letter behind another name. -/
theorem exists_of_le {n : Nat} (h : 26 ≤ n) : ∃ k m, m < 26 ∧ n = 26 * (k + 1) + m :=
  ⟨n / 26 - 1, n % 26, Nat.mod_lt n (by omega), by omega⟩

theorem isName_spell (n : Nat) : IsName (spell n) := by
  induction n using Nat.strong_induction_on with
  | _ n ih =>
    rcases Nat.lt_or_ge n 26 with hn | hn
    · rw [spell_of_lt hn]
      refine ⟨List.cons_ne_nil _ _, fun c hc => ?_⟩
      rw [List.mem_singleton.1 hc]
      exact letter_bounds hn
    · obtain ⟨k, m, hm, rfl⟩ := exists_of_le hn
      rw [spell_append k hm]
      refine ⟨by simp, fun c hc => ?_⟩
      rcases List.mem_append.1 hc with hc | hc
      · exact (ih k (by omega)).2 c hc
      · rw [List.mem_singleton.1 hc]
        exact letter_bounds hm

/-- Every name is spelled by a number. -/
theorem exists_spell {w : List Char} (h : IsName w) : ∃ n, spell n = w := by
  -- the last letter of a name is the last that its number gives
  induction w using List.reverseRecOn with
  | nil => exact absurd rfl h.1
  | append_singleton w c ih =>
    obtain ⟨m, hm, rfl⟩ := exists_letter (h.2 c (by simp))
    by_cases hw : w = []
    · subst hw
      exact ⟨m, spell_of_lt hm⟩
    · obtain ⟨k, rfl⟩ := ih ⟨hw, fun c hc => h.2 c (List.mem_append_left _ hc)⟩
      exact ⟨26 * (k + 1) + m, spell_append k hm⟩

/-- Numbers and names correspond. -/
theorem bijOn_spell : Set.BijOn spell Set.univ {w | IsName w} := by
  refine ⟨fun n _ => isName_spell n, fun m _ n _ h => spell_injective m n h, fun w hw => ?_⟩
  obtain ⟨n, rfl⟩ := exists_spell hw
  exact ⟨n, Set.mem_univ n, rfl⟩

/-! ## The order of names -/

/-- Where a name precedes another, it does so with any letters behind both. -/
theorem Precedes.append_letters {v w : List Char} (h : Precedes v w) (c d : Char) :
    Precedes (v ++ [c]) (w ++ [d]) := by
  rcases List.shortlex_def.1 h with hlength | ⟨hlength, hlex⟩
  · apply List.Shortlex.of_length_lt
    simp only [List.length_append, List.length_singleton]
    omega
  · apply List.Shortlex.of_lex
    · simp only [List.length_append, hlength, List.length_singleton]
    · clear h
      induction hlex with
      | nil => cases hlength
      | rel hrel => exact .rel hrel
      | cons _ ih => exact .cons (ih (Nat.succ.inj hlength))

/-- Greater numbers spell later names. -/
theorem precedes_spell {m n : Nat} (h : m < n) : Precedes (spell m) (spell n) := by
  induction n using Nat.strong_induction_on generalizing m with
  | _ n ih =>
    rcases Nat.lt_or_ge n 26 with hn | hn
    · rw [spell_of_lt (by omega), spell_of_lt hn]
      apply (List.shortlex_singleton_iff _ _).2
      exact letter_lt_letter h hn
    · obtain ⟨k, c, hc, rfl⟩ := exists_of_le hn
      rw [spell_append k hc]
      rcases Nat.lt_or_ge m 26 with hm | hm
      · apply List.Shortlex.of_length_lt
        rw [spell_of_lt hm, List.length_append]
        have := List.length_pos_of_ne_nil (spell_ne_nil k)
        simp only [List.length_singleton]
        omega
      · obtain ⟨j, b, hb, rfl⟩ := exists_of_le hm
        rw [spell_append j hb]
        rcases Nat.lt_or_ge j k with hjk | hjk
        · exact Precedes.append_letters (ih k (by omega) hjk) (letter b) (letter c)
        · -- the same name with two letters behind it
          obtain rfl : j = k := by omega
          apply List.Shortlex.append_left
          apply (List.shortlex_singleton_iff _ _).2
          exact letter_lt_letter (by omega) hc

/-- Earlier names have smaller numbers. -/
theorem precedes_spell_iff {m n : Nat} : Precedes (spell m) (spell n) ↔ m < n := by
  constructor
  · intro h
    rcases Nat.lt_trichotomy m n with hlt | rfl | hlt
    · exact hlt
    · exact absurd h (asymm h)
    · exact absurd (precedes_spell hlt) (asymm h)
  · exact precedes_spell

/-! ## The next name that is not taken -/

section Search

variable (taken : List (List Char))

/-- One number after the other is tried until its name is not taken. -/
inductive Tries : Nat → Nat → Prop
  | found {n : Nat} : spell n ∉ taken → Tries n n
  | skip {n m : Nat} : spell n ∈ taken → Tries (n + 1) m → Tries n m

/-- A number whose name is not taken. -/
def IsFree (n : Nat) : Prop := spell n ∉ taken

instance : DecidablePred (IsFree taken) := fun n => inferInstanceAs (Decidable (spell n ∉ taken))

variable {taken}

theorem Tries.unique {n m m' : Nat} (h : Tries taken n m) (h' : Tries taken n m') : m = m' := by
  induction h with
  | found hfree =>
    cases h' with
    | found => rfl
    | skip htaken => exact absurd htaken hfree
  | skip htaken _ ih =>
    cases h' with
    | found hfree => exact absurd htaken hfree
    | skip _ h' => exact ih h'

/-- Trying with a bound is trying, if it finds a name. -/
theorem tries_search {fuel n : Nat} (h : spell (search taken fuel n) ∉ taken) :
    Tries taken n (search taken fuel n) := by
  induction fuel generalizing n with
  | zero => exact .found h
  | succ fuel ih =>
    rw [search] at h ⊢
    split at h
    next hn =>
      rw [if_pos hn]
      exact .skip (by simpa using hn) (ih h)
    next hn =>
      rw [if_neg hn]
      exact .found h

/-- Trying one number after the other ends, and where it ends is the next name that is not taken. -/
theorem tries_iff {n m : Nat} : Tries taken n m ↔ m = next taken n := by
  have hnext : Tries taken n (next taken n) := tries_search (spell_next taken n)
  constructor
  · intro h
    exact h.unique hnext
  · rintro rfl
    exact hnext

/-- Trying passes over no name that is available. -/
theorem Tries.count_eq {n m : Nat} (h : Tries taken n m) : Nat.count (IsFree taken) m = Nat.count (IsFree taken) n := by
  induction h with
  | found _ => rfl
  | @skip n m htaken _ ih =>
    have hn : ¬IsFree taken n := fun hfree => hfree htaken
    rw [ih, Nat.count_succ, if_neg hn, Nat.add_zero]

theorem isFree_next (n : Nat) : IsFree taken (next taken n) := spell_next taken n

theorem count_next (n : Nat) : Nat.count (IsFree taken) (next taken n) = Nat.count (IsFree taken) n :=
  (tries_iff.2 rfl).count_eq

end Search

/-! ## The name with a place among the available ones -/

/-- A name that is not taken, with so many others before it. -/
structure IsAvailableAt (taken : List (List Char)) (k : Nat) (w : List Char) : Prop where
  isName : IsName w
  notMem : w ∉ taken
  before : {v | IsName v ∧ v ∉ taken ∧ Precedes v w}.encard = k

section Places

variable {taken : List (List Char)}

/-- A free number spells the name whose place is the count of the free numbers below. -/
theorem isAvailableAt_spell {n : Nat} (h : IsFree taken n) :
    IsAvailableAt taken (Nat.count (IsFree taken) n) (spell n) where
  isName := isName_spell n
  notMem := h
  before := by
    have himage : {v | IsName v ∧ v ∉ taken ∧ Precedes v (spell n)}
        = spell '' (((Finset.range n).filter (IsFree taken) : Finset Nat) : Set Nat) := by
      ext v
      simp only [Set.mem_ofPred_eq, Set.mem_image, Finset.coe_filter, Finset.mem_range]
      constructor
      · rintro ⟨hname, hfree, hv⟩
        obtain ⟨m, rfl⟩ := exists_spell hname
        exact ⟨m, ⟨precedes_spell_iff.1 hv, hfree⟩, rfl⟩
      · rintro ⟨m, ⟨hlt, hfree⟩, rfl⟩
        exact ⟨isName_spell m, hfree, precedes_spell hlt⟩
    have hinjective : Function.Injective spell := fun m n => spell_injective m n
    rw [himage, hinjective.encard_image, Set.encard_coe_eq_coe_finsetCard, ← Nat.count_eq_card_filter_range]

/-- An available name is spelled by a free number. -/
theorem exists_isFree {w : List Char} (hname : IsName w) (hfree : w ∉ taken) : ∃ n, IsFree taken n ∧ spell n = w := by
  obtain ⟨n, rfl⟩ := exists_spell hname
  exact ⟨n, hfree, rfl⟩

/-- The place of a name is the count of the free numbers below its own. -/
theorem IsAvailableAt.exists_count {k : Nat} {w : List Char} (h : IsAvailableAt taken k w) :
    ∃ n, IsFree taken n ∧ spell n = w ∧ Nat.count (IsFree taken) n = k := by
  obtain ⟨n, hfree, rfl⟩ := exists_isFree h.isName h.notMem
  have hcount := (isAvailableAt_spell hfree).before.symm.trans h.before
  exact ⟨n, hfree, rfl, Nat.cast_injective hcount⟩

end Places

/-! ## Supplies -/

/-- A supply of names: the names in use, and the number of the name to try next. -/
structure Supply where
  used : List (List Char)
  number : Nat

/-- What is done with a supply. -/
inductive Turn where
  | peek | take
  deriving DecidableEq

namespace Supply

/-- A supply of all names that are neither used nor reserved. -/
def start (used : List (List Char)) : Supply := ⟨used, 0⟩

/-- The names that a supply does not give. -/
def taken (s : Supply) : List (List Char) := s.used ++ Plan.reserved

/-- The next name of a supply, which has passed over those before it. -/
def peek (s : Supply) : List Char × Supply :=
  (spell (next s.taken s.number), { s with number := next s.taken s.number })

/-- The supply without the name that was seen. -/
def take (s : Supply) : Supply := { s with number := s.number + 1 }

/-- What a turn leaves of a supply. -/
def step (s : Supply) : Turn → Supply
  | .peek => s.peek.2
  | .take => s.take

/-- What turns leave of a supply. -/
def run (s : Supply) (turns : List Turn) : Supply := turns.foldl step s

/-- A name is taken only right after it was seen. -/
def SeesFirst (turns : List Turn) : Prop := (Turn.take :: turns).IsChain fun a b => a = .peek ∨ b = .peek

/-- Where what is taken has been seen, a supply goes past one available name with each take, and past no other. -/
theorem count_run (used : List (List Char)) {last : Turn} :
    ∀ {turns : List Turn} {n : Nat}, (last = .peek → IsFree (used ++ Plan.reserved) n) →
      (last :: turns).IsChain (fun a b => a = .peek ∨ b = .peek) →
        ∃ m, run ⟨used, n⟩ turns = ⟨used, m⟩
          ∧ Nat.count (IsFree (used ++ Plan.reserved)) m
            = Nat.count (IsFree (used ++ Plan.reserved)) n + turns.count .take
  | [], n, _, _ => ⟨n, rfl, rfl⟩
  | .peek :: turns, n, _, hchain => by
    obtain ⟨-, hchain⟩ := List.isChain_cons_cons.1 hchain
    obtain ⟨m, hrun, hcount⟩ := count_run used (fun _ => isFree_next n) hchain
    refine ⟨m, hrun, ?_⟩
    rw [hcount, count_next, List.count_cons_of_ne (by decide)]
  | .take :: turns, n, hlast, hchain => by
    obtain ⟨hseen, hchain⟩ := List.isChain_cons_cons.1 hchain
    have hfree : IsFree (used ++ Plan.reserved) n := hlast (hseen.resolve_right (by decide))
    obtain ⟨m, hrun, hcount⟩ := count_run used (n := n + 1) (fun h => by cases h) hchain
    refine ⟨m, hrun, ?_⟩
    rw [hcount, Nat.count_succ, if_pos hfree, List.count_cons_self]
    omega

/-- Each name that a supply shows is the available one with as many before it as have been taken. -/
theorem available_peek_run {turns : List Turn} (used : List (List Char)) (h : SeesFirst turns) :
    IsAvailableAt (used ++ Plan.reserved) (turns.count .take) ((start used).run turns).peek.1 := by
  obtain ⟨m, hrun, hcount⟩ := count_run used (n := 0) (fun h => by cases h) h
  have hfree : IsFree (used ++ Plan.reserved) (next (used ++ Plan.reserved) m) := isFree_next m
  have hplace := isAvailableAt_spell hfree
  rw [count_next, hcount, Nat.count_zero, Nat.zero_add] at hplace
  rw [start, hrun]
  exact hplace

end Supply

end FreshName

/-! ## Plans -/

namespace Plan

open FreshName

/-- A plan looks at the next name for each local in turn, and takes it if it is shorter. -/
theorem assign_supply (s : Supply) (name : List Char) (names : List (List Char)) :
    assign s.taken s.number (name :: names) =
      if s.peek.1.length < Text.byteLength name then (name, s.peek.1) :: assign s.taken s.peek.2.take.number names
      else assign s.taken s.peek.2.number names := rfl

/-- Each name that is given is one that a supply shows, after a take for each local that got a name before. -/
theorem exists_turns_of_assign {used : List (List Char)} {name short : List Char} :
    ∀ {names : List (List Char)} {n k : Nat}, (assign (used ++ reserved) n names)[k]? = some (name, short) →
      ∃ turns, Supply.SeesFirst turns ∧ turns.count .take = k ∧ (Supply.run ⟨used, n⟩ turns).peek.1 = short
  | [], n, k, h => by cases h
  | other :: names, n, k, h => by
    change (assign (Supply.mk used n).taken _ (other :: names))[k]? = _ at h
    rw [assign_supply ⟨used, n⟩] at h
    split at h
    · cases k with
      | zero =>
        simp only [List.getElem?_cons_zero, Option.some.injEq, Prod.mk.injEq] at h
        exact ⟨[], List.isChain_singleton _, rfl, h.2⟩
      | succ k =>
        rw [List.getElem?_cons_succ] at h
        obtain ⟨turns, hchain, hcount, hshort⟩ := exists_turns_of_assign h
        refine ⟨.peek :: .take :: turns, ?_, ?_, hshort⟩
        · exact .cons_cons (.inr rfl) (.cons_cons (.inl rfl) hchain)
        · rw [List.count_cons_of_ne (by decide), List.count_cons_self, hcount]
    · obtain ⟨turns, hchain, hcount, hshort⟩ := exists_turns_of_assign h
      refine ⟨.peek :: turns, ?_, ?_, hshort⟩
      · refine .cons_cons (.inr rfl) ?_
        cases turns with
        | nil => exact List.isChain_singleton _
        | cons turn turns => exact .cons_cons (.inl rfl) (List.isChain_cons_cons.1 hchain).2
      · rw [List.count_cons_of_ne (by decide), hcount]

section Mapping

variable {survey : Survey} {bound : List (List Char)} {k : Nat} {name short : List Char}

/-- The locals that change get the available names in order. -/
theorem available_mapping (h : (mapping survey bound)[k]? = some (name, short)) :
    IsAvailableAt (survey.names ++ reserved) k short := by
  obtain ⟨turns, hsees, rfl, rfl⟩ := exists_turns_of_assign h
  exact Supply.available_peek_run survey.names hsees

/-- The name that a local gets comes before all others that are left: those that are not used, not reserved and not
given to a local before it. -/
theorem precedes_of_mapping (h : (mapping survey bound)[k]? = some (name, short)) {w : List Char} (hname : IsName w)
    (hused : w ∉ survey.names) (hreserved : w ∉ reserved)
    (hgiven : ∀ j < k, ∀ e, (mapping survey bound)[j]? = some e → e.2 ≠ w) : w = short ∨ Precedes short w := by
  obtain ⟨m, hm, rfl, hplace⟩ := (available_mapping h).exists_count
  have hfree : w ∉ survey.names ++ reserved := by simp [hused, hreserved]
  obtain ⟨n, hn, rfl⟩ := exists_isFree hname hfree
  rcases Nat.lt_trichotomy n m with hlt | rfl | hlt
  · -- a name with an earlier place was given to an earlier local
    have hj : Nat.count (IsFree (survey.names ++ reserved)) n < k := by
      rw [← hplace]
      exact Nat.count_strict_mono hn hlt
    obtain ⟨hk, -⟩ := List.getElem?_eq_some_iff.1 h
    have hsome := List.getElem?_eq_getElem (Nat.lt_trans hj hk)
    obtain ⟨n', hn', hspell, hplace'⟩ := (available_mapping hsome).exists_count
    rw [Nat.count_injective hn' hn hplace'] at hspell
    exact absurd hspell.symm (hgiven _ hj _ hsome)
  · exact .inl rfl
  · exact .inr (precedes_spell hlt)

end Mapping
end Plan

/-! ## Names in order -/

/-- Numbers spell the names of small letters, each once and in order. From every number on, trying ends at the next
name that is not taken, and the name that a supply shows after `k` takes has `k` available ones before it. What an
identifier is changed to by the plan of a function is the first name that is left for its local, and the available one
with as many before it as there are locals that got a name before. -/
theorem names_in_order :
    Set.BijOn FreshName.spell Set.univ {w | FreshName.IsName w}
    ∧ (∀ m n, m < n → FreshName.Precedes (FreshName.spell m) (FreshName.spell n))
    ∧ (∀ used n m, FreshName.Tries (used ++ Plan.reserved) n m ↔ m = FreshName.next (used ++ Plan.reserved) n)
    ∧ (∀ used turns, FreshName.Supply.SeesFirst turns →
        FreshName.IsAvailableAt (used ++ Plan.reserved) (turns.count .take)
          ((FreshName.Supply.start used).run turns).peek.1)
    ∧ ∀ (f : Tree) (start : Nat) (short : List Char), (start, short) ∈ f.functionPlan →
        ∃ survey bound k name, f.locals? = some (survey, bound) ∧ (start, name) ∈ survey.identifiers
          ∧ (Plan.mapping survey bound)[k]? = some (name, short)
          ∧ FreshName.IsAvailableAt (survey.names ++ Plan.reserved) k short
          ∧ ∀ w, FreshName.IsName w → w ∉ survey.names → w ∉ Plan.reserved →
              (∀ j < k, ∀ e, (Plan.mapping survey bound)[j]? = some e → e.2 ≠ w) →
                w = short ∨ FreshName.Precedes short w := by
  refine ⟨FreshName.bijOn_spell, fun m n h => FreshName.precedes_spell h, fun used n m => FreshName.tries_iff,
    fun used turns h => FreshName.Supply.available_peek_run used h, ?_⟩
  intro f start short he
  rw [Tree.functionPlan] at he
  split at he
  · cases he
  next survey bound hlocals =>
    obtain ⟨⟨start', name⟩, hidentifier, hnew⟩ := List.mem_filterMap.1 he
    simp only [Option.map_eq_some_iff, Prod.mk.injEq] at hnew
    obtain ⟨_, hlookup, rfl, rfl⟩ := hnew
    obtain ⟨k, hk⟩ := List.getElem?_of_mem (mem_of_lookup_eq_some hlookup)
    exact ⟨survey, bound, k, name, hlocals, hidentifier, hk, Plan.available_mapping hk,
      fun w hname hused hreserved hgiven => Plan.precedes_of_mapping hk hname hused hreserved hgiven⟩

theorem names_in_order_used : ∃ t, check "total => total + a".toList = .ok t
    ∧ (∃ f start short, (start, short) ∈ f.functionPlan ∧ f ∈ t.functions ∧ start = 9
      ∧ ∃ survey bound k name, f.locals? = some (survey, bound) ∧ (start, name) ∈ survey.identifiers
        ∧ (Plan.mapping survey bound)[k]? = some (name, short)
        ∧ FreshName.IsAvailableAt (survey.names ++ Plan.reserved) k short)
    ∧ FreshName.Supply.SeesFirst [.peek, .peek, .take, .peek]
    ∧ FreshName.IsAvailableAt (["a".toList, "c".toList] ++ Plan.reserved) 1 "d".toList := by
  have h : (check "total => total + a".toList).toOption.any
      (fun t => decide (t.plan = [(0, "b".toList), (9, "b".toList)])) = true := by
    decide +kernel
  obtain ⟨t, ht, hplan⟩ := exists_of_any_check h
  obtain ⟨f, hf, he⟩ := Tree.exists_of_mem_plan (t := t) (e := (9, "b".toList)) (by simp [of_decide_eq_true hplan])
  obtain ⟨-, -, -, hsupply, hplans⟩ := names_in_order
  obtain ⟨survey, bound, k, name, hlocals, hidentifier, hk, hplace, -⟩ := hplans f _ _ he
  have hsees : FreshName.Supply.SeesFirst [.peek, .peek, .take, .peek] := by
    unfold FreshName.Supply.SeesFirst
    decide
  exact ⟨t, ht, ⟨f, 9, _, he, hf, rfl, survey, bound, k, name, hlocals, hidentifier, hk, hplace⟩, hsees,
    hsupply ["a".toList, "c".toList] _ hsees⟩

end Bookmarklet.Script
