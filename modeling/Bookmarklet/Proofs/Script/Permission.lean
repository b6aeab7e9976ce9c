import Bookmarklet.Proofs.Script.Acceptance
import Bookmarklet.Proofs.Script.Surroundings

/-!
# Surroundings that allow more

A context allows at least what another does (`c ≤ d`) if it is strict only if the other is, allows `await`, `yield` and
jumps wherever the other does, and has the other's labels with further ones around them. No rule of the checker refuses
a node in the larger context alone (`Tree.ownViolation?_eq_none_of_le`), and a node makes of the larger context a larger
one (`Tree.contextBelow_mono`). So a tree that commits no offence in a context commits none in a larger one
(`Tree.violation?_eq_none_of_le`).
-/

namespace Bookmarklet.Script

/-! ## The order of contexts -/

/-- A context allows at least what another does. -/
structure Context.Le (c d : Context) : Prop where
  strict : d.strict → c.strict
  isAsync : c.isAsync → d.isAsync
  generator : c.generator → d.generator
  inLoop : c.inLoop → d.inLoop
  inSwitch : c.inSwitch → d.inSwitch
  labels : ∃ outer, d.labels = c.labels ++ outer

instance : LE Context := ⟨Context.Le⟩

namespace Context

/-- The surroundings of a program allow no more than any others that are strict only if the program is. -/
theorem program_le {strict : Bool} {c : Context} (h : c.strict → strict) : program strict ≤ c where
  strict := h
  isAsync := nofun
  generator := nofun
  inLoop := nofun
  inSwitch := nofun
  labels := ⟨c.labels, rfl⟩

/-- Of contexts that differ in strictness alone, the sloppy one allows more. -/
theorem strict_le_sloppy (c : Context) : { c with strict := true } ≤ { c with strict := false } where
  strict := nofun
  isAsync := id
  generator := id
  inLoop := id
  inSwitch := id
  labels := ⟨[], by simp⟩

end Context

/-! ## Rules for single nodes -/

/-- Declarations that exclude each other in sloppy code do so in strict code. -/
theorem Scope.clash?_eq_none_of_le {strict strict' : Bool} (hs : strict' → strict) {scope : Scope}
    (h : scope.clash? strict = none) : scope.clash? strict' = none := by
  have hexcludes (a b : Binding) (hex : excludes strict' a b) : excludes strict a b := by
    rw [excludes_iff] at hex ⊢
    exact ⟨hex.1, hex.2.imp_left hs⟩
  have hafter (bs : List Binding) : ∀ earlier, clashAfter? strict scope.vars earlier bs = none →
      clashAfter? strict' scope.vars earlier bs = none := by
    induction bs with
    | nil => exact fun _ _ => rfl
    | cons b bs ih =>
      intro earlier hnone
      rw [clashAfter?] at hnone ⊢
      split at hnone
      · cases hnone
      next hb =>
        rw [if_neg, ih _ hnone]
        intro hb'
        simp only [Bool.or_eq_true, List.any_eq_true] at hb hb'
        refine hb (hb'.imp_left ?_)
        rintro ⟨a, ha, hex⟩
        exact ⟨a, ha, hexcludes a b hex⟩
  exact hafter scope.lexical [] h

namespace Tree

section Mono

variable {c d : Context} (hcd : c ≤ d)
include hcd

theorem scopeViolation?_eq_none_of_le {scope : Scope} (h : scopeViolation? c.strict scope = none) :
    scopeViolation? d.strict scope = none :=
  scopeViolation?_eq_none.2 (Scope.clash?_eq_none_of_le hcd.strict (scopeViolation?_eq_none.1 h))

theorem breakViolation?_eq_none_of_le {label? : Option (List Char)} (h : breakViolation? c label? = none) :
    breakViolation? d label? = none := by
  obtain ⟨outer, hlabels⟩ := hcd.labels
  cases label? with
  | none =>
    simp only [breakViolation?, ite_eq_left_iff, reduceCtorEq, imp_false, Classical.not_not, Bool.or_eq_true] at h ⊢
    exact h.imp hcd.inLoop hcd.inSwitch
  | some label =>
    simp only [breakViolation?, ite_eq_left_iff, reduceCtorEq, imp_false, Classical.not_not] at h ⊢
    rw [hlabels, List.any_append, h, Bool.true_or]

/-- A label is found where it was, since further labels come behind. -/
theorem continueViolation?_eq_none_of_le {label? : Option (List Char)} (h : continueViolation? c label? = none) :
    continueViolation? d label? = none := by
  obtain ⟨outer, hlabels⟩ := hcd.labels
  cases label? with
  | none =>
    simp only [continueViolation?, ite_eq_left_iff, reduceCtorEq, imp_false, Classical.not_not] at h ⊢
    exact hcd.inLoop h
  | some label =>
    have hlookup : c.labels.lookup label = some true := by
      simp only [continueViolation?] at h
      split at h
      · assumption
      · cases h
      · cases h
    simp [continueViolation?, hlabels, List.lookup_append, hlookup]

/-- A rule that refuses a node in a context refuses it in each that allows less. -/
theorem ownViolation?_eq_none_of_le {owner : Owner} {t : Tree} (h : t.ownViolation? c owner = none) :
    t.ownViolation? d owner = none := by
  unfold ownViolation? at h ⊢
  split at h
  · cases h
  next hm =>
    rw [if_neg hm]
    split at h
    next hf => rw [if_pos hf, h]
    next hf =>
      rw [if_neg hf]
      split at h
      next hk =>
        cases owner with
        | function => simp
        | handler parameter => simpa [hk] using scopeViolation?_eq_none_of_le hcd h
        | other => simpa [hk] using scopeViolation?_eq_none_of_le hcd h
      next hk => simpa [hk] using scopeViolation?_eq_none_of_le hcd h
      next hk => simpa [hk] using breakViolation?_eq_none_of_le hcd h
      next hk => simpa [hk] using continueViolation?_eq_none_of_le hcd h
      next hk =>
        have hawait : c.isAsync ∨ t.isCallLike := by simpa [Classical.or_iff_not_imp_left] using h
        simpa [hk, Classical.or_iff_not_imp_left] using hawait.imp_left hcd.isAsync
      next hk =>
        have hyield : c.generator ∨ ¬ c.strict ∧ t.isCallLike := by simpa [Classical.or_iff_not_imp_left] using h
        simpa [hk, Classical.or_iff_not_imp_left] using hyield.imp hcd.generator (And.imp_left (mt hcd.strict))
      next hk =>
        have hsloppy : ¬ c.strict := by simpa using h
        simpa [hk] using mt hcd.strict hsloppy
      next hk =>
        have hkeeps : c.strict → ¬ t.deletesName := by simpa using h
        simpa [hk] using fun hd => hkeeps (hcd.strict hd)
      next => rfl

/-- A node makes of a context that allows more one that allows more. -/
theorem contextBelow_mono (t : Tree) : contextBelow c t ≤ contextBelow d t := by
  obtain ⟨outer, hlabels⟩ := hcd.labels
  cases hb : t.isBoundary with
  | true =>
    rw [contextBelow_boundary hb, contextBelow_boundary hb]
    refine ⟨fun h => ?_, id, id, id, id, [], rfl⟩
    simp only [Context.function, Bool.or_eq_true] at h ⊢
    exact h.imp_left hcd.strict
  | false =>
    rw [contextBelow_inner hb, contextBelow_inner hb]
    refine ⟨fun h => ?_, hcd.isAsync, hcd.generator, fun h => ?_, fun h => ?_, outer, by simp [hlabels]⟩
    · rw [Bool.or_eq_true] at h ⊢
      exact h.imp_left hcd.strict
    · rw [Bool.or_eq_true] at h ⊢
      exact h.imp_left hcd.inLoop
    · rw [Bool.or_eq_true] at h ⊢
      exact h.imp_left hcd.inSwitch

end Mono

/-- A tree that commits no offence in a context commits none in a context that allows more. -/
theorem violation?_mono (t : Tree) : ∀ {c d : Context} {owner : Owner}, c ≤ d → t.violation? c owner = none →
    t.violation? d owner = none := by
  induction t using induction_children with
  | step t ih =>
    intro c d owner hcd h
    rw [violation?_eq_none_iff] at h ⊢
    exact ⟨ownViolation?_eq_none_of_le hcd h.1, fun u hu => ih u hu (contextBelow_mono hcd t) (h.2 u hu)⟩

/-- A loop, a `switch` or a label makes of sloppy surroundings some that allow whatever a program does. -/
theorem program_le_contextBelow (strict : Bool) {c : Context} {u : Tree}
    (hu : u.kind.isLoop ∨ u.kind = .switchStatement ∨ u.kind = .labeledStatement) (hc : c.strict = false) :
    Context.program strict ≤ contextBelow c u ∧ ∀ t, ownerOf u t = .other := by
  have hkind : u.isBoundary = false ∧ u.kind.isClass = false ∧ u.kind.isFunction = false ∧ u.kind ≠ .catchClause := by
    rw [isBoundary]
    rcases hu with hl | hk | hk
    · revert hl
      cases u.kind <;> simp [Kind.isLoop, Kind.isFunction, Kind.isClass]
    · simp [hk, Kind.isFunction, Kind.isClass]
    · simp [hk, Kind.isFunction, Kind.isClass]
  obtain ⟨hb, hclass, hf, hcatch⟩ := hkind
  refine ⟨Context.program_le fun hs => ?_, fun t => by simp [ownerOf, hf, hcatch]⟩
  rw [contextBelow_inner hb, hc, hclass] at hs
  cases hs

/-- What is accepted in a context is accepted in each that allows at least as much. So is strict code as sloppy code,
and code of the top level in a sloppy loop, `switch` or labelled statement. -/
theorem violation?_eq_none_of_le :
    (∀ (c d : Context) (owner : Owner) (t : Tree), c ≤ d → t.violation? c owner = none → t.violation? d owner = none)
      ∧ (∀ (c : Context) (owner : Owner) (t : Tree), t.violation? { c with strict := true } owner = none →
        t.violation? { c with strict := false } owner = none)
      ∧ ∀ (strict : Bool) (c : Context) (u : Tree) (ts : List Tree),
        u.kind.isLoop ∨ u.kind = .switchStatement ∨ u.kind = .labeledStatement → c.strict = false →
        violationIn? (.program strict) (fun _ => .other) ts = none →
        violationIn? (contextBelow c u) (ownerOf u) ts = none := by
  refine ⟨fun c d owner t h => violation?_mono t h, fun c owner t => violation?_mono t c.strict_le_sloppy, ?_⟩
  intro strict c u ts hu hc h
  obtain ⟨hle, howner⟩ := program_le_contextBelow strict hu hc
  rw [violationIn?_eq_none_iff] at h ⊢
  intro t ht
  rw [howner]
  exact violation?_mono t hle (h t ht)

/-- A labelled loop that is accepted in strict code, once more as sloppy code in itself. -/
theorem violation?_eq_none_of_le_labelled : ∃ t u,
    check "a: for (;;) \x7b if (b) continue a; break \x7d".toList = .ok t ∧ u ∈ t.children ∧ u.kind = .labeledStatement
      ∧ u.violation? (.program true) .other = none ∧ u.violation? (.program false) .other = none
      ∧ u.violation? ⟨false, true, false, true, false, [("b".toList, false)]⟩ .other = none
      ∧ violationIn? (contextBelow (.program false) u) (ownerOf u) [u] = none := by
  have h : (check "a: for (;;) \x7b if (b) continue a; break \x7d".toList).toOption.any (fun t => t.children.any fun u =>
      u.kind = .labeledStatement && (u.violation? (.program true) .other).isNone) = true := by decide +kernel
  obtain ⟨t, ht, hall⟩ := exists_of_any_check h
  obtain ⟨u, hu, htest⟩ := List.any_eq_true.1 hall
  rw [Bool.and_eq_true, decide_eq_true_eq, Option.isNone_iff_eq_none] at htest
  obtain ⟨hk, hstrict⟩ := htest
  refine ⟨t, u, ht, hu, hk, hstrict, violation?_eq_none_of_le.2.1 (.program true) .other u hstrict,
    violation?_eq_none_of_le.1 (.program true) _ .other u (Context.program_le fun _ => rfl) hstrict,
    violation?_eq_none_of_le.2.2 true (.program false) u [u] (.inr (.inr hk)) rfl ?_⟩
  rw [violationIn?, hstrict]
  rfl

end Tree
end Bookmarklet.Script
