import Bookmarklet.Proofs.Script.Acceptance
import Bookmarklet.Proofs.Script.Surroundings

/-!
# Where `await` and `yield` stand

An `await` whose operand is not in parentheses needs an async function, and such a `yield` a generator, as the innermost
function or static block whose parameters or body hold it (`Tree.MayWait`): the name and the decorators of a method are
code of its surroundings.

The checker takes the innermost function or static block around the expression, whatever part of that it stands in, and
the first node in the expression for its operand, even if that is a comment. So it accepts a program that obeys all
other rules if and only if each such expression is in a function of its kind, as long as both ways to read the place
come to the same (`Tree.IsClear`), as they do outside the names and decorators of methods where no comment stands before
the operand.
-/

namespace Bookmarklet.Script

/-- Expressions that wait for something, each in functions of a kind of its own. -/
def Kind.isSuspension : Kind → Bool
  | .awaitExpression | .yieldExpression => true
  | _ => false

namespace Tree

/-! ## The function of an expression -/

/-- A part of a function or static block that is code of its own, as opposed to a name or a decorator. -/
def isCodePart (t : Tree) : Bool :=
  t.info.field = some .body || t.info.field = some .parameters || t.info.field = some .parameter

/-- The innermost function or static block whose parameters or body hold a node, by the nodes around it. -/
def holder? (t : Tree) : List Tree → Option Tree
  | [] => none
  | parent :: around => if parent.isBoundary && t.isCodePart then some parent else parent.holder? around

/-- Whether a function lets an expression wait in it: an async function an `await`, a generator a `yield`. -/
def lets (t : Tree) (function : Tree) : Bool :=
  if t.kind = .awaitExpression then function.isAsync else function.isGenerator

/-- What an `await` or a `yield` works on. -/
def operand? (t : Tree) : Option Tree := t.children.find? fun c => c.kind.isNamed && !c.kind.isComment

/-- Whether an expression cannot be read as a call, since its operand is not in parentheses. -/
def isOperator (t : Tree) : Bool := t.operand?.any (·.kind ≠ .parenthesizedExpression)

/-- An `await` or a `yield` that is no call stands in a function of its kind. -/
def MayWait (around : List Tree) (t : Tree) : Prop := t.isOperator → (t.holder? around).any t.lets

/-- In strict code `yield` is a reserved word, so that it needs a generator in any case. -/
def ReservesYield (program : Tree) : Prop :=
  ∀ around t, Within program around t → t.kind = .yieldExpression → program.isStrictWithin around →
    t.isOperator = false → (t.holder? around).any t.lets

/-- The function that holds an expression lets it wait if and only if the innermost one around it does, and the operand
is the first node in it. -/
structure IsClear (around : List Tree) (t : Tree) : Prop where
  holder : (boundary? around).any t.lets = (t.holder? around).any t.lets
  operand : t.isCallLike = !t.isOperator

instance (around : List Tree) (t : Tree) : Decidable (MayWait around t) :=
  inferInstanceAs (Decidable (t.isOperator → (t.holder? around).any t.lets))

instance (program : Tree) : Decidable program.ReservesYield :=
  inferInstanceAs (Decidable (∀ around t, Within program around t → t.kind = .yieldExpression →
    program.isStrictWithin around → t.isOperator = false → (t.holder? around).any t.lets))

instance (around : List Tree) (t : Tree) : Decidable (IsClear around t) :=
  decidable_of_iff ((boundary? around).any t.lets = (t.holder? around).any t.lets ∧ t.isCallLike = !t.isOperator)
    ⟨fun h => ⟨h.1, h.2⟩, fun h => ⟨h.holder, h.operand⟩⟩

/-! ## Expressions that are accepted -/

section Suspension

variable {program t : Tree} {around : List Tree} {owner : Owner}

theorem lets_of_await (hk : t.kind = .awaitExpression) : t.lets = isAsync := by
  funext f
  simp [lets, hk]

theorem lets_of_yield (hk : t.kind = .yieldExpression) : t.lets = isGenerator := by
  funext f
  simp [lets, hk]

theorem ownViolation?_await (hk : t.kind = .awaitExpression) :
    t.ownViolation? (program.contextWithin around) owner = none ↔ (boundary? around).any t.lets ∨ t.isCallLike := by
  rw [lets_of_await hk, ← (functions_contextWithin program around).1]
  simp [ownViolation?, hk, Kind.isMarkup, Kind.isFunction, Classical.or_iff_not_imp_left]

theorem ownViolation?_yield (hk : t.kind = .yieldExpression) :
    t.ownViolation? (program.contextWithin around) owner = none ↔
      (boundary? around).any t.lets ∨ program.isStrictWithin around = false ∧ t.isCallLike := by
  rw [lets_of_yield hk, ← (functions_contextWithin program around).2, ← strict_contextWithin]
  simp [ownViolation?, hk, Kind.isMarkup, Kind.isFunction, Classical.or_iff_not_imp_left]

/-- Where the place of an expression is clear, it is accepted if and only if it may wait there. -/
theorem ownViolation?_suspension_iff (hk : t.kind.isSuspension) (hclear : IsClear around t)
    (hreserved : t.kind = .yieldExpression → program.isStrictWithin around → t.isOperator = false →
      (t.holder? around).any t.lets) :
    t.ownViolation? (program.contextWithin around) owner = none ↔ MayWait around t := by
  have hkind : t.kind = .awaitExpression ∨ t.kind = .yieldExpression := by
    revert hk
    cases t.kind <;> simp [Kind.isSuspension]
  rw [MayWait]
  rcases hkind with hk | hk
  · rw [ownViolation?_await hk, hclear.holder, hclear.operand]
    cases t.isOperator <;> simp
  · rw [ownViolation?_yield hk, hclear.holder, hclear.operand]
    cases ho : t.isOperator with
    | true => simp
    | false =>
      have hyield := fun hs => hreserved hk hs ho
      cases hs : program.isStrictWithin around with
      | true => simp [hyield hs]
      | false => simp

end Suspension

/-- A program that obeys all other rules, and in which the place of every `await` and `yield` is clear, is accepted if
and only if each of them may wait where it stands. -/
theorem programViolation?_eq_none_iff_suspensions {program : Tree} (h : program.ObeysExcept Kind.isSuspension)
    (hreserved : program.ReservesYield)
    (hclear : ∀ around t, Within program around t → t.kind.isSuspension → IsClear around t) :
    program.programViolation? = none ↔ ∀ around t, Within program around t → t.kind.isSuspension →
      MayWait around t := by
  rw [programViolation?_eq_none_iff h]
  constructor
  · intro hnone around t hw hk
    exact (ownViolation?_suspension_iff hk (hclear around t hw hk) (hreserved around t hw)).1 (hnone around t hw hk)
  · intro hwait around t hw hk
    exact (ownViolation?_suspension_iff hk (hclear around t hw hk) (hreserved around t hw)).2 (hwait around t hw hk)

theorem programViolation?_eq_none_iff_suspensions_nested : ∃ t,
    check "async function f(a = await b) \x7b await a; return function* () \x7b yield a \x7d \x7d".toList = .ok t
      ∧ t.ObeysExcept Kind.isSuspension ∧ t.ReservesYield
      ∧ (∀ around u, Within t around u → u.kind.isSuspension → IsClear around u)
      ∧ (∃ around u, Within t around u ∧ u.kind = .yieldExpression ∧ u.isOperator)
      ∧ ∀ around u, Within t around u → u.kind.isSuspension → MayWait around u := by
  have h : (check "async function f(a = await b) \x7b await a; return function* () \x7b yield a \x7d \x7d".toList
      ).toOption.any (fun t => decide (t.ObeysExcept Kind.isSuspension) && decide t.ReservesYield
        && decide (∀ around u, Within t around u → u.kind.isSuspension → IsClear around u)
        && t.sitesBelow.any fun s => s.2.kind = .yieldExpression && s.2.isOperator) = true := by decide +kernel
  obtain ⟨t, ht, htest⟩ := exists_of_any_check h
  simp only [Bool.and_eq_true, decide_eq_true_eq, List.any_eq_true] at htest
  obtain ⟨⟨⟨hobeys, hreserved⟩, hclear⟩, s, hs, hyield⟩ := htest
  exact ⟨t, ht, hobeys, hreserved, hclear, ⟨s.1, s.2, mem_sitesBelow.1 hs, hyield⟩,
    (programViolation?_eq_none_iff_suspensions hobeys hreserved hclear).1 (check_eq_ok_iff_clean.1 ht).2⟩

/-- The name of a method is code of its surroundings, but is taken for code of the method: so an `await` in it is
refused in an async function, and accepted where only the method is async. -/
theorem not_forall_check_iff_mayWait :
    (¬ ∀ (source : List Char) (t : Tree), ParsesCleanly source t → t.ObeysExcept Kind.isSuspension → t.ReservesYield →
        (∀ around u, Within t around u → u.kind.isSuspension → MayWait around u) → check source = .ok t)
      ∧ ¬ ∀ (source : List Char) (t : Tree), ParsesCleanly source t → t.ObeysExcept Kind.isSuspension →
        t.ReservesYield → check source = .ok t →
        ∀ around u, Within t around u → u.kind.isSuspension → MayWait around u := by
  constructor
  · intro hall
    have h : (parse "async function f() \x7b return \x7b [await g()]() \x7b\x7d \x7d \x7d".toList).any (fun t =>
        !t.info.faulty && t.moduleViolation?.isNone && (decide (t.ObeysExcept Kind.isSuspension)
          && decide t.ReservesYield && t.programViolation?.isSome
          && decide (∀ around u, Within t around u → u.kind.isSuspension → MayWait around u))) = true := by decide +kernel
    obtain ⟨t, ht, htest⟩ := exists_of_any_parse h
    simp only [Bool.and_eq_true, decide_eq_true_eq] at htest
    obtain ⟨⟨⟨hobeys, hreserved⟩, hrefused⟩, hwait⟩ := htest
    have hok := hall _ t ht hobeys hreserved hwait
    rw [(check_eq_ok_iff_clean.1 hok).2] at hrefused
    cases hrefused
  · intro hall
    have h : (check "(\x7b async [await g()]() \x7b\x7d \x7d)".toList).toOption.any (fun t =>
        decide (t.ObeysExcept Kind.isSuspension) && decide t.ReservesYield
          && t.sitesBelow.any fun s => s.2.kind.isSuspension && decide (¬ MayWait s.1 s.2)) = true := by decide +kernel
    obtain ⟨t, ht, htest⟩ := exists_of_any_check h
    simp only [Bool.and_eq_true, decide_eq_true_eq, List.any_eq_true] at htest
    obtain ⟨⟨hobeys, hreserved⟩, s, hs, hk, hwait⟩ := htest
    exact hwait (hall _ t (check_eq_ok_iff_clean.1 ht).1 hobeys hreserved ht s.1 s.2 (mem_sitesBelow.1 hs) hk)

end Tree
end Bookmarklet.Script
