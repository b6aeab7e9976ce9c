import Bookmarklet.Proofs.Script.Acceptance
import Bookmarklet.Proofs.Script.Binding
import Bookmarklet.Proofs.Script.Surroundings

/-!
# The targets of jumps

The language lets a `break` leave a loop or a `switch` around it, or a statement with its label, and a `continue` go on
with a loop around it, or with one that has its label, directly or through a chain of further labels; all in the same
function or static block (`Tree.HasTarget`). Labels are names, so an escape in one is resolved.

The checker keeps the labels around a place as they are spelled, and notes of each whether its statement is a loop
(`Tree.lookup_ownLabels`). A jump is therefore accepted if and only if it has a target and finds its label so
(`Tree.ownViolation?_jump_iff`): a chain of labels before a loop is not followed, and neither are escapes.
-/

namespace Bookmarklet.Script

/-- Statements that jump to a statement around them. -/
def Kind.isJump : Kind → Bool
  | .breakStatement | .continueStatement => true
  | _ => false

namespace Tree

/-! ## Targets -/

/-- A loop, or a statement that labels one, directly or through further labels. -/
inductive IsIterated : Tree → Prop
  | loop {t : Tree} (h : t.kind.isLoop) : IsIterated t
  | labelled {t body : Tree} (hk : t.kind = .labeledStatement) (hb : t.part? .body = some body)
      (h : IsIterated body) : IsIterated t

/-- A statement has a label that reads like another. -/
def Bears (t : Tree) (label : List Char) : Prop :=
  t.kind = .labeledStatement ∧ ∃ own, t.labelText? = some own ∧ unescape own = unescape label

/-- The target of a jump is around it, in the same function or static block: a loop, or for a `break` a `switch`, or
else a statement with the label of the jump, which for a `continue` is iterated. -/
def HasTarget (around : List Tree) (t : Tree) : Prop :=
  match t.labelText? with
  | none => ∃ u ∈ reach around, u.kind.isLoop ∨ t.kind = .breakStatement ∧ u.kind = .switchStatement
  | some label => ∃ u ∈ reach around, u.Bears label ∧ (t.kind = .continueStatement → u.IsIterated)

/-! ## Labels as they are found -/

/-- Whether a statement has a label of a spelling. -/
def isLabelled (label : List Char) (t : Tree) : Bool := t.kind = .labeledStatement && t.labelText? = some label

/-- A statement around a jump has its label in the same spelling, and the innermost one that a `continue` finds is the
label of a loop itself. -/
def FindsLabel (around : List Tree) (t : Tree) : Prop :=
  ∀ label, t.labelText? = some label →
    ∃ u, (reach around).find? (·.isLabelled label) = some u ∧ (t.kind = .continueStatement → u.labelsLoop)

theorem ownLabels_of_isLabelled {t : Tree} {label : List Char} (h : t.isLabelled label) :
    t.ownLabels = [(label, t.labelsLoop)] := by
  rw [isLabelled, Bool.and_eq_true, decide_eq_true_eq, decide_eq_true_eq] at h
  simp [ownLabels, h.1, h.2]

theorem lookup_ownLabels_of_not_isLabelled {t : Tree} {label : List Char} (h : t.isLabelled label = false) :
    t.ownLabels.lookup label = none := by
  rw [isLabelled, Bool.and_eq_false_imp] at h
  rw [ownLabels]
  split
  next hk =>
    have hne := h (decide_eq_true hk)
    cases hl : t.labelText? with
    | none => rfl
    | some own =>
      have hown : label ≠ own := by
        rintro rfl
        simp [hl] at hne
      simp [List.lookup_cons, beq_false_of_ne hown]
  next => rfl

/-- A label is looked up as that of the innermost statement that has it. -/
theorem lookup_ownLabels (us : List Tree) (label : List Char) :
    (us.flatMap (·.ownLabels)).lookup label = (us.find? (·.isLabelled label)).map (·.labelsLoop) := by
  induction us with
  | nil => rfl
  | cons u us ih =>
    rw [List.flatMap_cons, List.lookup_append, ih]
    cases hu : u.isLabelled label with
    | true => simp [ownLabels_of_isLabelled hu, hu]
    | false => simp [lookup_ownLabels_of_not_isLabelled hu, hu]

/-! ## Jumps that are accepted -/

section Jump

variable {program t : Tree} {around : List Tree}

theorem ownViolation?_break {c : Context} {owner : Owner} (hk : t.kind = .breakStatement) :
    t.ownViolation? c owner = breakViolation? c t.labelText? := by
  simp [ownViolation?, hk, Kind.isMarkup, Kind.isFunction]

theorem ownViolation?_continue {c : Context} {owner : Owner} (hk : t.kind = .continueStatement) :
    t.ownViolation? c owner = continueViolation? c t.labelText? := by
  simp [ownViolation?, hk, Kind.isMarkup, Kind.isFunction]

/-- A statement that a label is looked up at bears the label. -/
theorem bears_of_find? {label : List Char} {u : Tree} (h : (reach around).find? (·.isLabelled label) = some u) :
    u ∈ reach around ∧ u.Bears label := by
  have hu := List.find?_some h
  rw [isLabelled, Bool.and_eq_true, decide_eq_true_eq, decide_eq_true_eq] at hu
  exact ⟨List.mem_of_find?_eq_some h, hu.1, label, hu.2, rfl⟩

/-- A statement with a label that has a loop for its body is iterated. -/
theorem Bears.isIterated {label : List Char} {u : Tree} (h : u.Bears label) (hl : u.labelsLoop) : u.IsIterated := by
  rw [labelsLoop, Option.any_eq_true] at hl
  obtain ⟨body, hb, hloop⟩ := hl
  exact .labelled h.1 hb (.loop hloop)

/-- A jump that finds its label has a target. -/
theorem HasTarget.of_findsLabel {label : List Char} (hl : t.labelText? = some label) (h : FindsLabel around t) :
    HasTarget around t := by
  obtain ⟨u, hu, hloop⟩ := h label hl
  obtain ⟨hmem, hbears⟩ := bears_of_find? hu
  rw [HasTarget, hl]
  exact ⟨u, hmem, hbears, fun hk => hbears.isIterated (hloop hk)⟩

/-- A jump without a label finds it wherever it stands. -/
theorem findsLabel_of_no_label (hl : t.labelText? = none) : FindsLabel around t := by
  intro label h
  rw [hl] at h
  cases h

/-- A `break` is accepted if and only if it has a target and finds its label. -/
theorem breakViolation?_eq_none_iff (hk : t.kind = .breakStatement) :
    breakViolation? (program.contextWithin around) t.labelText? = none ↔ HasTarget around t ∧ FindsLabel around t := by
  obtain ⟨hloop, hswitch, hlabels⟩ := jumps_contextWithin program around
  cases hl : t.labelText? with
  | none =>
    rw [and_iff_left (findsLabel_of_no_label hl), HasTarget, hl]
    simp only [breakViolation?, hloop, hswitch, hk, ite_eq_left_iff, reduceCtorEq, imp_false, Classical.not_not,
      Bool.or_eq_true, List.any_eq_true, decide_eq_true_eq, true_and, and_or_left, exists_or]
  | some label =>
    rw [and_iff_right_of_imp (HasTarget.of_findsLabel hl)]
    have hany : (program.contextWithin around).labels.any (·.1 == label)
        ↔ ∃ u, (reach around).find? (·.isLabelled label) = some u := by
      rw [← Option.isSome_iff_exists, ← Option.isSome_map (f := labelsLoop), ← lookup_ownLabels, ← hlabels]
      simp [Bool.beq_comm]
    simp [breakViolation?, hany, FindsLabel, hl, hk]

/-- A `continue` is accepted if and only if it has a target and finds its label. -/
theorem continueViolation?_eq_none_iff (hk : t.kind = .continueStatement) :
    continueViolation? (program.contextWithin around) t.labelText? = none ↔
      HasTarget around t ∧ FindsLabel around t := by
  obtain ⟨hloop, -, hlabels⟩ := jumps_contextWithin program around
  cases hl : t.labelText? with
  | none =>
    rw [and_iff_left (findsLabel_of_no_label hl), HasTarget, hl]
    simp [continueViolation?, hloop, hk]
  | some label =>
    rw [and_iff_right_of_imp (HasTarget.of_findsLabel hl)]
    have hlookup := lookup_ownLabels (reach around) label
    rw [← hlabels] at hlookup
    cases hu : (reach around).find? (·.isLabelled label) with
    | none => simp [continueViolation?, FindsLabel, hl, hlookup, hu]
    | some u =>
      cases hb : u.labelsLoop with
      | true => simp [continueViolation?, FindsLabel, hl, hlookup, hu, hb]
      | false => simp [continueViolation?, FindsLabel, hl, hk, hlookup, hu, hb]

/-- A jump is accepted where it has a target and finds its label. -/
theorem ownViolation?_jump_iff (hj : t.kind.isJump) {owner : Owner} :
    t.ownViolation? (program.contextWithin around) owner = none ↔ HasTarget around t ∧ FindsLabel around t := by
  have hkind : t.kind = .breakStatement ∨ t.kind = .continueStatement := by
    revert hj
    cases t.kind <;> simp [Kind.isJump]
  rcases hkind with hk | hk
  · rw [ownViolation?_break hk, breakViolation?_eq_none_iff hk]
  · rw [ownViolation?_continue hk, continueViolation?_eq_none_iff hk]

end Jump

/-- A program that obeys all other rules is accepted if and only if every jump in it has a target and finds its label. -/
theorem programViolation?_eq_none_iff_jumps {program : Tree} (h : program.ObeysExcept Kind.isJump) :
    program.programViolation? = none ↔ ∀ around t, Within program around t → t.kind.isJump →
      HasTarget around t ∧ FindsLabel around t := by
  rw [programViolation?_eq_none_iff h]
  constructor
  · intro hnone around t hw hj
    exact (ownViolation?_jump_iff hj).1 (hnone around t hw hj)
  · intro hjumps around t hw hj
    exact (ownViolation?_jump_iff hj).2 (hjumps around t hw hj)

theorem programViolation?_eq_none_iff_jumps_nested : ∃ t,
    check "a: for (;;) \x7b b: switch (c) \x7b case d: break b; default: continue a \x7d break \x7d".toList = .ok t
      ∧ (t.ObeysExcept Kind.isJump) ∧ (∃ around u, Within t around u ∧ u.kind = .continueStatement)
      ∧ ∀ around u, Within t around u → u.kind.isJump → HasTarget around u ∧ FindsLabel around u := by
  have h : (check "a: for (;;) \x7b b: switch (c) \x7b case d: break b; default: continue a \x7d break \x7d".toList
      ).toOption.any (fun t => decide (t.ObeysExcept Kind.isJump)
        && t.sitesBelow.any fun s => s.2.kind = .continueStatement) = true := by decide +kernel
  obtain ⟨t, ht, hall⟩ := exists_of_any_check h
  simp only [Bool.and_eq_true, decide_eq_true_eq, List.any_eq_true] at hall
  obtain ⟨hobeys, s, hs, hk⟩ := hall
  have hnone := (check_eq_ok_iff_clean.1 ht).2
  exact ⟨t, ht, hobeys, ⟨s.1, s.2, mem_sitesBelow.1 hs, hk⟩, (programViolation?_eq_none_iff_jumps hobeys).1 hnone⟩

/-- A `continue` may name a label that stands before a further label of its loop, but is refused then. -/
theorem not_forall_check_iff_hasTarget :
    ¬ ∀ (source : List Char) (t : Tree), ParsesCleanly source t → (t.ObeysExcept Kind.isJump) →
      (check source = .ok t ↔ ∀ around u, Within t around u → u.kind.isJump → HasTarget around u) := by
  intro hall
  have h : (parse "a: b: for (;;) continue a".toList).any (fun t => !t.info.faulty && t.moduleViolation?.isNone
      && (decide (t.ObeysExcept Kind.isJump) && t.programViolation?.isSome
        && t.sitesBelow.all fun s => !s.2.kind.isJump || s.2.labelText? = some "a".toList
          && (reach s.1).any fun u => u.isLabelled "a".toList
            && (u.part? .body).any fun v => v.kind = .labeledStatement && v.labelsLoop)) = true := by decide +kernel
  obtain ⟨t, ht, htest⟩ := exists_of_any_parse h
  simp only [Bool.and_eq_true, decide_eq_true_eq, List.all_eq_true, Bool.or_eq_true, Bool.not_eq_true',
    List.any_eq_true, Option.any_eq_true] at htest
  obtain ⟨⟨hobeys, hrefused⟩, htargets⟩ := htest
  have hok : check "a: b: for (;;) continue a".toList = .ok t := (hall _ t ht hobeys).2 fun around u hw hj => by
    rcases htargets (around, u) (mem_sitesBelow.2 hw) with hno | ⟨hl, v, hv, hlabelled, body, hb, hk, hloop⟩
    · rw [hno] at hj
      cases hj
    · rw [labelsLoop, Option.any_eq_true] at hloop
      obtain ⟨loop, hloop, hl'⟩ := hloop
      rw [isLabelled, Bool.and_eq_true, decide_eq_true_eq, decide_eq_true_eq] at hlabelled
      rw [HasTarget, hl]
      exact ⟨v, hv, ⟨hlabelled.1, _, hlabelled.2, rfl⟩, fun _ =>
        .labelled hlabelled.1 hb (.labelled hk hloop (.loop hl'))⟩
  rw [(check_eq_ok_iff_clean.1 hok).2] at hrefused
  cases hrefused

end Tree
end Bookmarklet.Script
