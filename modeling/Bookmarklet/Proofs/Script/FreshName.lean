import Bookmarklet.Script.Minify.FreshName

/-!
# Fresh names are fresh

* Different numbers spell different names (`FreshName.spell_injective`).
* The name that is found is not taken (`FreshName.spell_next`), and its number is not below the one from which the
  search began (`FreshName.le_next`).
-/

namespace Bookmarklet.Script.FreshName

/-! ## Spelling -/

theorem letter_injective {m n : Nat} (hm : m < 26) (hn : n < 26) (h : letter m = letter n) : m = n := by
  have hall : ∀ m < 26, ∀ n < 26, letter m = letter n → m = n := by decide
  exact hall m hm n hn h

/-- What has been spelled stays at the end. -/
theorem spellBefore_append (fuel n : Nat) (rest : List Char) :
    spellBefore fuel n rest = spellBefore fuel n [] ++ rest := by
  induction fuel generalizing n rest with
  | zero => rfl
  | succ fuel ih =>
    rw [spellBefore, spellBefore]
    split
    · rfl
    · rw [ih _ (letter (n % 26) :: rest), ih _ [letter (n % 26)]]
      simp

/-- The fuel does not matter if there is enough. -/
theorem spellBefore_fuel : ∀ (fuel more n : Nat) (rest : List Char), n < fuel → n < more →
    spellBefore fuel n rest = spellBefore more n rest
  | 0, _, _, _, h, _ => by omega
  | _ + 1, 0, _, _, _, h => by omega
  | fuel + 1, more + 1, n, rest, hf, hm => by
    rw [spellBefore, spellBefore]
    split
    · rfl
    · exact spellBefore_fuel fuel more _ _ (by omega) (by omega)

/-- A name ends with the letter of the remainder; what precedes it spells the quotient. -/
theorem spell_eq (n : Nat) :
    spell n = (if n < 26 then [] else spell (n / 26 - 1)) ++ [letter (n % 26)] := by
  rw [spell, spellBefore]
  split
  · rfl
  · rw [spellBefore_append, spell, spellBefore_fuel n (n / 26 - 1 + 1) _ _ (by omega) (by omega)]

theorem spell_ne_nil (n : Nat) : spell n ≠ [] := by
  rw [spell_eq]
  simp

/-- Different numbers spell different names. -/
theorem spell_injective (m n : Nat) (h : spell m = spell n) : m = n := by
  rw [spell_eq m, spell_eq n] at h
  obtain ⟨hinit, hlast⟩ := List.append_inj' h rfl
  have hmod := letter_injective (Nat.mod_lt m (by omega)) (Nat.mod_lt n (by omega)) (List.cons.inj hlast).1
  by_cases hm : m < 26
  · by_cases hn : n < 26
    · omega
    · rw [if_pos hm, if_neg hn] at hinit
      exact absurd hinit.symm (spell_ne_nil _)
  · by_cases hn : n < 26
    · rw [if_neg hm, if_pos hn] at hinit
      exact absurd hinit (spell_ne_nil _)
    · rw [if_neg hm, if_neg hn] at hinit
      have hdiv := spell_injective (m / 26 - 1) (n / 26 - 1) hinit
      omega
termination_by m

/-- No name is spelled with a backslash. -/
theorem backslash_not_mem_spell (n : Nat) : '\\' ∉ spell n := by
  have hletter : ∀ m < 26, letter m ≠ '\\' := by decide
  rw [spell_eq]
  intro h
  rcases List.mem_append.1 h with h | h
  · split at h
    · cases h
    · exact backslash_not_mem_spell (n / 26 - 1) h
  · exact hletter (n % 26) (Nat.mod_lt n (by omega)) (List.mem_singleton.1 h).symm
termination_by n

/-! ## The search -/

theorem le_search (taken : List (List Char)) (fuel n : Nat) : n ≤ search taken fuel n := by
  induction fuel generalizing n with
  | zero => exact Nat.le_refl n
  | succ fuel ih =>
    rw [search]
    split
    · exact Nat.le_trans (Nat.le_succ n) (ih (n + 1))
    · exact Nat.le_refl n

/-- The number of the name that is found is not below the one from which the search began. -/
theorem le_next (taken : List (List Char)) (n : Nat) : n ≤ next taken n := le_search taken taken.length n

/-- Of the taken names, those that the search has yet to meet are among `untried`; it has a step for each of them. -/
theorem spell_search (fuel n : Nat) (taken untried : List (List Char))
    (h : ∀ m, n ≤ m → spell m ∈ taken → spell m ∈ untried) (hlen : untried.length ≤ fuel) :
    spell (search taken fuel n) ∉ taken := by
  induction fuel generalizing n untried with
  | zero =>
    intro hmem
    have := h n (Nat.le_refl n) hmem
    rw [List.eq_nil_of_length_eq_zero (Nat.le_zero.1 hlen)] at this
    cases this
  | succ fuel ih =>
    rw [search]
    split
    next hn =>
      have hmem : spell n ∈ untried := h n (Nat.le_refl n) (by simpa using hn)
      refine ih (n + 1) (untried.erase (spell n)) (fun m hm hmem => ?_) ?_
      · have hne : spell m ≠ spell n := by
          intro heq
          have := spell_injective m n heq
          omega
        exact (List.mem_erase_of_ne hne).2 (h m (by omega) hmem)
      · rw [List.length_erase_of_mem hmem]
        omega
    next hn => simpa using hn

/-- The name that is found is not taken. -/
theorem spell_next (taken : List (List Char)) (n : Nat) : spell (next taken n) ∉ taken :=
  spell_search taken.length n taken taken (fun _ _ h => h) (Nat.le_refl _)

end Bookmarklet.Script.FreshName
