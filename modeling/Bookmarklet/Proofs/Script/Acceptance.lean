import Bookmarklet.Script.Check

/-!
# Accepted scripts

A script is accepted if and only if its parse is clean, that is, without faults and without module syntax at the top
level, and commits no offence (`check_eq_ok_iff_clean`).
-/

namespace Bookmarklet.Script

theorem Tree.refusal?_eq_none_iff {t : Tree} :
    t.refusal? = none ↔ t.info.faulty = false ∧ t.moduleViolation? = none ∧ t.programViolation? = none := by
  unfold Tree.refusal?
  split
  next hf => simp [hf]
  next hf => simp [hf]

theorem check_eq_ok_iff {source : List Char} {t : Tree} :
    check source = .ok t ↔ parse source = some t ∧ t.refusal? = none := by
  unfold check
  cases parse source with
  | none => simp
  | some u =>
    simp only [Option.some.injEq]
    split
    next error herror =>
      simp only [reduceCtorEq, false_iff, not_and]
      rintro rfl hnone
      rw [herror] at hnone
      cases hnone
    next hnone =>
      simp only [Except.ok.injEq]
      exact ⟨fun heq => ⟨heq, heq ▸ hnone⟩, fun h => h.1⟩

/-- A source whose tree is refused is refused for the same reason. -/
theorem check_eq_error {source : List Char} {t : Tree} {e : SyntaxError} (h : parse source = some t)
    (hr : t.refusal? = some e) : check source = .error e := by
  unfold check
  split
  next hnone =>
    rw [h] at hnone
    cases hnone
  next u hu =>
    obtain rfl : t = u := Option.some.inj (h.symm.trans hu)
    split
    next error herror => rw [Option.some.inj (herror.symm.trans hr)]
    next hnone =>
      rw [hr] at hnone
      cases hnone

/-- A tree is what a source parses to, without faults and without module syntax at the top level. -/
structure ParsesCleanly (source : List Char) (t : Tree) : Prop where
  parse : parse source = some t
  faulty : t.info.faulty = false
  module : t.moduleViolation? = none

theorem check_eq_ok_iff_clean {source : List Char} {t : Tree} :
    check source = .ok t ↔ ParsesCleanly source t ∧ t.programViolation? = none := by
  rw [check_eq_ok_iff, Tree.refusal?_eq_none_iff]
  exact ⟨fun ⟨hp, hf, hm, hv⟩ => ⟨⟨hp, hf, hm⟩, hv⟩, fun ⟨⟨hp, hf, hm⟩, hv⟩ => ⟨hp, hf, hm, hv⟩⟩

theorem clean_of_check {source : List Char} {t : Tree} (h : check source = .ok t) : t.info.faulty = false :=
  (check_eq_ok_iff_clean.1 h).1.faulty

/-- A test that the tree of an accepted script passes, evaluated along with the check. -/
theorem exists_of_any_check {source : List Char} {p : Tree → Bool} (h : (check source).toOption.any p = true) :
    ∃ t, check source = .ok t ∧ p t = true := by
  cases hc : check source with
  | error e =>
    rw [hc] at h
    cases h
  | ok t =>
    rw [hc] at h
    exact ⟨t, rfl, h⟩

/-- A test that a clean tree passes, evaluated along with the parse. -/
theorem exists_of_any_parse {source : List Char} {p : Tree → Bool}
    (h : (parse source).any (fun t => !t.info.faulty && t.moduleViolation?.isNone && p t) = true) :
    ∃ t, ParsesCleanly source t ∧ p t = true := by
  obtain ⟨t, ht, hall⟩ := (Option.any_eq_true _ _).1 h
  simp only [Bool.and_eq_true, Bool.not_eq_true', Option.isNone_iff_eq_none] at hall
  exact ⟨t, ⟨ht, hall.1.1, hall.1.2⟩, hall.2⟩

end Bookmarklet.Script
