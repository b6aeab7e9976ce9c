import Bookmarklet.Proofs.Script.Grammar.Clue
import Bookmarklet.Proofs.Script.Parser.Cover

/-!
# Parts that follow the parse table

A part leads from the state below it to the state on top of it. It follows the table if the table leads there: a token
by a shift, a construct by the target of its nonterminal, and the parts of a construct, as many as its reduction takes,
to a state that reduces them (`Subtree.Follows`). Extra parts stay where they are (`Subtree.Follows.eq_of_extra`), and
nothing leads out of the state of error recovery (`Subtree.FollowsAll.eq_errorState`).
-/

namespace Bookmarklet.Script

open Grammar (errorState moves targetOn targetOf Reduces)

/-- A token that no rule of the grammar mentions. -/
def Leaf.IsExtra (l : Leaf) : Prop := ∃ t, l.symbol = .terminal t ∧ t.isExtra

namespace Subtree

/-! ## Following the table -/

/-- How many of some parts are not extra. -/
def widthOf (parts : List Subtree) : Nat := parts.countP (!·.extra)

mutual
/-- A part leads from one state to another as the table says. A missing token leads where the token would, to another
state; an extra token leads nowhere, and so does what an error skipped, which costs something. -/
def Follows : Subtree → Nat → Nat → Prop
  | leaf l _ extra, a, b =>
    if extra then b = a ∧ l.IsExtra
    else l.isFair ∧ ∃ t, l.symbol = .terminal t
      ∧ (.shift b ∈ moves a t ∨ l.isMissing ∧ b = targetOn a t ∧ b ≠ a ∧ b ≠ errorState)
  | branch (.construct n) shape children _ extra _, a, b =>
    extra = false ∧ b = targetOf a n
      ∧ ∃ top r, FollowsAll children a top ∧ widthOf children = r.width ∧ Reduces top r ∧ r.result = n
        ∧ r.shape = shape
  | branch .error _ _ _ extra weight, a, b => extra = true ∧ b = a ∧ 0 < weight.cost
  | branch .skipped _ _ _ extra _, _, b => extra = false ∧ b = errorState
  | branch (.terminal _) _ _ _ _ _, _, _ => False

/-- Consecutive parts lead from one state to another as the table says. -/
def FollowsAll : List Subtree → Nat → Nat → Prop
  | [], a, b => a = b
  | c :: cs, a, b => ∃ m, c.Follows a m ∧ FollowsAll cs m b
end

section Follows

variable {s : Subtree} {cs ds : List Subtree} {a b m : Nat}

theorem followsAll_append : FollowsAll (cs ++ ds) a b ↔ ∃ m, FollowsAll cs a m ∧ FollowsAll ds m b := by
  induction cs generalizing a with
  | nil => simp [FollowsAll]
  | cons c cs ih =>
    simp only [List.cons_append, FollowsAll, ih]
    constructor
    · rintro ⟨m, hc, n, hcs, hds⟩
      exact ⟨n, ⟨m, hc, hcs⟩, hds⟩
    · rintro ⟨n, ⟨m, hc, hcs⟩, hds⟩
      exact ⟨m, hc, n, hcs, hds⟩

theorem followsAll_singleton : FollowsAll [s] a b ↔ s.Follows a b := by
  simp [FollowsAll]

theorem follows_prefer {preference : Int} : (s.prefer preference).Follows a b ↔ s.Follows a b := by
  cases s with
  | leaf l span extra => rfl
  | branch symbol shape children span extra weight => cases symbol <;> rfl

/-- An extra part leads from any state to itself. -/
theorem Follows.eq_of_extra (h : s.Follows a b) (he : s.extra) : b = a := by
  cases s with
  | leaf l span extra =>
    rw [Follows, if_pos (show extra = true from he)] at h
    exact h.1
  | branch symbol shape children span extra weight =>
    cases (he : extra = true)
    cases symbol with
    | construct n => cases h.1
    | error => exact h.2.1
    | skipped => cases h.1
    | terminal t => exact h.elim

theorem FollowsAll.eq_of_extra : ∀ {cs : List Subtree} {a b : Nat}, FollowsAll cs a b → (∀ c ∈ cs, c.extra) → a = b
  | [], _, _, h, _ => h
  | c :: cs, a, _, ⟨m, hc, hcs⟩, he => by
    have hm := hc.eq_of_extra (he c List.mem_cons_self)
    exact hm ▸ hcs.eq_of_extra fun d hd => he d (List.mem_cons_of_mem c hd)

theorem extra_of_mem_splitExtras {c : Subtree} (h : c ∈ (splitExtras cs).2) : c.extra :=
  List.all_eq_true.1 List.all_takeWhile c (List.mem_reverse.1 h)

theorem widthOf_splitExtras (cs : List Subtree) : widthOf (splitExtras cs).1 = widthOf cs := by
  have hextras : (splitExtras cs).2.countP (!·.extra) = 0 :=
    List.countP_eq_zero.2 fun c hc => by simp [extra_of_mem_splitExtras hc]
  have hsplit := congrArg (List.countP (!·.extra)) (splitExtras_append cs)
  rwa [List.countP_append, hextras, Nat.add_zero] at hsplit

/-- What begins in the state of error recovery ends there. -/
theorem Follows.eq_errorState (h : s.Follows errorState b) : b = errorState := by
  cases s with
  | leaf l span extra =>
    rw [Follows] at h
    split at h
    · exact h.1
    · obtain ⟨-, t, -, hshift | ⟨-, hb, -, -⟩⟩ := h
      · cases Grammar.isIdle_of_mem_moves hshift
      · rw [hb, Grammar.targetOn_errorState]
  | branch symbol shape children span extra weight =>
    cases symbol with
    | construct n => exact h.2.1.trans (Grammar.targetOf_errorState n)
    | error => exact h.2.1
    | skipped => exact h.2
    | terminal t => exact h.elim

theorem FollowsAll.eq_errorState : ∀ {cs : List Subtree} {b : Nat}, FollowsAll cs errorState b → b = errorState
  | [], _, h => h.symm
  | _ :: _, _, ⟨m, hc, hcs⟩ => by
    cases hc.eq_errorState
    exact hcs.eq_errorState

end Follows
end Subtree

/-! ## Ways up a stack -/

/-- Parts on a way up a stack lead from one state to another, and so many of them are not extra. The mark of an error
may stand between them, and from there nothing leads on but in error recovery. -/
def Reaches (parts : List Subtree) (depth a b : Nat) : Prop :=
  b ≠ errorState → Subtree.FollowsAll parts a b ∧ Subtree.widthOf parts = depth

namespace Reaches

variable {parts : List Subtree} {part : Subtree} {depth a b m : Nat}

theorem nil (a : Nat) : Reaches [] 0 a a := fun _ => ⟨rfl, rfl⟩

theorem cons (hc : part.Follows a m) (h : Reaches parts depth m b) :
    Reaches (part :: parts) (if part.extra then depth else depth + 1) a b := by
  intro hb
  obtain ⟨hparts, hwidth⟩ := h hb
  refine ⟨⟨m, hc, hparts⟩, ?_⟩
  rw [Subtree.widthOf, List.countP_cons, ← Subtree.widthOf, hwidth]
  cases part.extra <;> rfl

/-- The mark of an error leads to error recovery from any state. -/
theorem of_errorState (h : Reaches parts depth errorState b) (depth' a : Nat) : Reaches parts depth' a b :=
  fun hb => absurd (h hb).1.eq_errorState hb

/-- The parts that a construct is made of, with the extra parts behind them left out. -/
theorem splitExtras (h : Reaches parts depth a b) (hb : b ≠ errorState) :
    Subtree.FollowsAll (Subtree.splitExtras parts).1 a b ∧ Subtree.widthOf (Subtree.splitExtras parts).1 = depth := by
  obtain ⟨hfollows, hwidth⟩ := h hb
  refine ⟨?_, (Subtree.widthOf_splitExtras parts).trans hwidth⟩
  rw [← Subtree.splitExtras_append parts] at hfollows
  obtain ⟨m, hchildren, hextras⟩ := Subtree.followsAll_append.1 hfollows
  rwa [hextras.eq_of_extra fun c hc => Subtree.extra_of_mem_splitExtras hc] at hchildren

end Reaches
end Bookmarklet.Script
