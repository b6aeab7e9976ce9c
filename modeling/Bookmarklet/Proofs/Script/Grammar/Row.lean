import Bookmarklet.Script.Grammar.Table

/-!
# What a row of the parse table allows

Whatever a state does on a token stands in a field of its row (`Grammar.mem_rowMoves_of_mem_moves`), and a field holds
known actions only (`Grammar.all_decodeMoves`). So a property of the moves of a state can be checked field by field, and
one of all moves entry by entry.

The state of error recovery only skips tokens: it shifts nothing, ends no construct and leads nowhere.
-/

namespace Bookmarklet.Script

theorem Terminal.mem_all (t : Terminal) : t ∈ Terminal.all :=
  List.mem_map.2 ⟨t.ctorIdx, List.mem_range.2 (by cases t <;> decide), Terminal.ofNat_ctorIdx t⟩

namespace Grammar

/-! ## Fields -/

/-- The actions of all fields of a row. -/
def everyMove : Nat → Nat → List Action
  | 0, _ => []
  | fuel + 1, fields =>
    if fields = 0 then [] else decodeMoves (fields % 0x2000) ++ everyMove fuel (fields / 0x400000)

/-- All that a state does on any token. -/
def rowMoves (state : Nat) : List Action := everyMove Terminal.count (actionRow state / 0x100)

theorem mem_everyMove_of_findField {sets code : Nat} {action : Action} (h : action ∈ decodeMoves code) :
    ∀ {fuel fields : Nat}, findField sets fuel fields = some code → action ∈ everyMove fuel fields
  | 0, _, hfind => by cases hfind
  | fuel + 1, fields, hfind => by
    rw [findField] at hfind
    rw [everyMove]
    split at hfind
    · cases hfind
    next hne =>
      rw [if_neg hne]
      split at hfind
      · cases hfind
        exact List.mem_append_left _ h
      · exact List.mem_append_right _ (mem_everyMove_of_findField h hfind)

theorem mem_rowMoves_of_mem_moves {state : Nat} {t : Terminal} {action : Action} (h : action ∈ moves state t) :
    action ∈ rowMoves state := by
  unfold moves at h
  split at h
  next hfind => exact mem_everyMove_of_findField h hfind
  next => cases h

theorem mem_everyMove_of_mem_collectMoves {action : Action} : ∀ {fuel fields : Nat},
    action ∈ collectMoves fuel fields → action ∈ everyMove fuel fields
  | 0, _, h => by cases h
  | fuel + 1, fields, h => by
    rw [collectMoves] at h
    rw [everyMove]
    split at h
    · cases h
    next hne =>
      rw [if_neg hne]
      simp only at h
      split at h
      · exact List.mem_append_right _ (mem_everyMove_of_mem_collectMoves h)
      · exact (List.mem_append.1 h).elim (List.mem_append_left _)
          fun h => List.mem_append_right _ (mem_everyMove_of_mem_collectMoves h)

theorem exists_mem_decodeMoves {action : Action} : ∀ {fuel fields : Nat}, action ∈ everyMove fuel fields →
    ∃ code, action ∈ decodeMoves code
  | 0, _, h => by cases h
  | fuel + 1, fields, h => by
    rw [everyMove] at h
    split at h
    · cases h
    · exact (List.mem_append.1 h).elim (fun h => ⟨_, h⟩) exists_mem_decodeMoves

/-- An entry of a paged list has a property that all its entries have, and the entry that stands for those it lacks. -/
theorem page_of_forall {α : Type} {p : α → Prop} {width : Nat} {pages : List (List α)} {default : α}
    (h : ∀ entries ∈ pages, ∀ x ∈ entries, p x) (hd : p default) (i : Nat) : p (page width pages default i) := by
  have hgetD {β : Type} {q : β → Prop} {l : List β} {d : β} (hl : ∀ x ∈ l, q x) (hd : q d) (j : Nat) :
      q (l.getD j d) := by
    rw [List.getD_eq_getElem?_getD]
    cases hj : l[j]? with
    | none => exact hd
    | some x => exact hl x (List.mem_of_getElem? hj)
  exact hgetD (hgetD (q := fun entries => ∀ x ∈ entries, p x) h (fun _ hx => absurd hx List.not_mem_nil) _) hd _

/-- A test that all reductions and all choices pass is passed by all actions. -/
theorem all_decodeMoves {test : Action → Bool} (hshift : ∀ target, test (.shift target))
    (hreduce : (reductions.all fun page => page.all fun r => test (.reduce r)) = true)
    (hdefault : test (.reduce default))
    (hchoice : (choices.all fun page => page.all fun actions => actions.all test) = true) (code : Nat) :
    ∀ action ∈ decodeMoves code, test action := by
  unfold decodeMoves
  split
  · intro action h
    cases List.mem_singleton.1 h
    exact hshift _
  · intro action h
    cases List.mem_singleton.1 h
    exact page_of_forall (p := fun r => test (.reduce r))
      (fun page hpage r hr => List.all_eq_true.1 (List.all_eq_true.1 hreduce page hpage) r hr) hdefault _
  · exact page_of_forall (p := fun actions => ∀ action ∈ actions, test action)
      (fun page hpage actions hactions =>
        List.all_eq_true.1 (List.all_eq_true.1 (List.all_eq_true.1 hchoice page hpage) actions hactions))
      (fun _ h => absurd h List.not_mem_nil) _

/-! ## Reductions -/

/-- A state may end a construct: on some token, or whatever comes next. -/
def Reduces (state : Nat) (r : Reduction) : Prop :=
  (∃ t, .reduce r ∈ moves state t) ∨ .reduce r ∈ allMoves state

theorem Reduces.mem_rowMoves {state : Nat} {r : Reduction} : Reduces state r → .reduce r ∈ rowMoves state
  | .inl ⟨_, h⟩ => mem_rowMoves_of_mem_moves h
  | .inr h => mem_everyMove_of_mem_collectMoves h

/-! ## The state of error recovery -/

/-- Moves that leave the state as it is. -/
def Action.isIdle : Action → Bool
  | .shiftExtra | .recover => true
  | _ => false

theorem isIdle_of_mem_rowMoves {action : Action} (h : action ∈ rowMoves errorState) : action.isIdle := by
  have hall : (rowMoves errorState).all Action.isIdle = true := rfl
  exact List.all_eq_true.1 hall action h

theorem isIdle_of_mem_moves {t : Terminal} {action : Action} (h : action ∈ moves errorState t) : action.isIdle :=
  isIdle_of_mem_rowMoves (mem_rowMoves_of_mem_moves h)

theorem Reduces.ne_errorState {state : Nat} {r : Reduction} (h : Reduces state r) : state ≠ errorState := by
  rintro rfl
  cases isIdle_of_mem_rowMoves h.mem_rowMoves

theorem targetOn_errorState (t : Terminal) : targetOn errorState t = errorState := by
  unfold targetOn
  split
  next h => cases isIdle_of_mem_moves (List.mem_of_getLast? h)
  next h => cases isIdle_of_mem_moves (List.mem_of_getLast? h)
  · rfl
  · rfl

theorem targetOf_errorState (n : Nonterminal) : targetOf errorState n = errorState := by
  rw [targetOf, show page 40 gotoRows 0 errorState = 0 from rfl]
  rfl

end Grammar
end Bookmarklet.Script
