import Bookmarklet.Proofs.Script.Grammar.Clue

/-!
# Where the grammar has comments

No rule of the grammar mentions a comment, so no state takes one for a part of a construct. A line that starts with a
hash bang is part of a program and of nothing else: any other reduction takes fewer parts than there are above such a
line (`Grammar.width_le_of_reduces`).

For each state `Grammar.height` is a number of parts on top of the stack that are no such line. A token adds at most one
to it, and a hash bang line leaves nothing of it (`Grammar.height_le_of_terminal`); a construct adds at most one
(`Grammar.height_le_of_targetOf`).
-/

namespace Bookmarklet.Script

/-- Tokens that are comments for the program. -/
def Terminal.isRemark (t : Terminal) : Bool := t = .hashBangLine || t.isExtra

namespace Grammar

/-- For each state a number of parts on top of the stack that are no hash bang lines; four bits per state, forty states
per page. -/
def heights : List Nat :=
  [0x38777666543222221654534221f07665254321f0, 0x3332216555444364554327261298887776543333,
   0x7665655435443135432334332223135322243324, 0x3747635554445244433366654443333222222211,
   0x3332222222222222222222221117999888648887, 0x3333333225256333333333333333332254443333,
   0x8888776639377777777777737777625333333333, 0x232222143333366552226521787a888888888888,
   0x1187427866765776665554443114343333762653, 0x5544444444444444433333333333333333222222,
   0x1123333436546544442398887777666655555555, 0x3333321677622224332338888876654333332222,
   0x3227666555433653332253374887744433443363, 0x6555555555555554444444444444444444333333,
   0x2221145465554444444444444444444332274636, 0x3333333333333333333322222222111244333322,
   0x5443355544444444444444443333333333333333, 0xa999888888888888888888845487766666655555,
   0x7666555554443333333322454644444333222176, 0x6543666654444444444444544545444335654777,
   0xa999999999999999999944333295544324653877, 0x5444444333335443343322432298444743387baa,
   0x6665544255444432544544433335533254443335, 0x3322215444433333338888887777777777776666,
   0x2332221176225544443321365455554444444333, 0x3333333115544764343444322266333332266533,
   0x5554455444444444433333332154444336644444, 0x6554443544376555544333333222222221113254,
   0x3322222222222222111125233322633433288777, 0x4433333222554437766555444444333333333333,
   0x3333333222222222222222111132342244333322, 0x2333365555444444444443333333333333333333,
   0x2211111114343442754446655544444444433333, 0x3333333333333333333333333322222222222222,
   0x5555555554444444444444444444444444444433, 0x6666666666655555555555555555555555555555,
   0x5555544444444433337767777776666666666666, 0x33222222222222211f1155444433322277446655,
   0x2777766665555555444444444333333333333333, 0x6577766676877627854744433325444333333322,
   0xfffffffffffffffffffffffffffffffff7488877]

/-- All heights in one number. -/
@[irreducible] def heightRow : Nat := heights.foldr (fun page rest => rest * 16 ^ 40 + page) 0

/-- How many parts on top of the stack are no hash bang lines, at least, in a state. -/
def height (state : Nat) : Nat := heightRow >>> (4 * state) % 16

/-! ## The table agrees with the heights -/

/-- Whether an action of a state on a set of terminals agrees with the heights, and takes no comment for a part. -/
def Action.isLevel (state set : Nat) : Action → Bool
  | .shift target | .shiftAgain target =>
    (height target).ble (height state + 1) && (!(setsBeyond (!·.isRemark)).testBit set
      || height target = 0 && !(setsBeyond (!·.isExtra)).testBit set)
  | .reduce r => r.width.ble (height state) || r.result = .program
  | _ => true

/-- Whether all that a state does agrees with the heights. -/
def isLevel (state : Nat) : Bool :=
  allFields (fun set code => (decodeMoves code).all (·.isLevel state set)) Terminal.count (actionRow state / 0x100)
    && allTargets (fun _ target => (height target).ble (height state + 1)) 128 (page 40 gotoRows 0 state)

theorem isLevel_all (state : Nat) : isLevel state := by
  have hall : (List.range 1640).all isLevel = true := by decide +kernel
  by_cases hlt : state < 1640
  · exact List.all_eq_true.1 hall state (List.mem_range.2 hlt)
  · have hactions : actionRow state = 0 := page_of_le (Nat.le_of_not_lt hlt)
    have htargets : page 40 gotoRows 0 state = 0 := page_of_le (Nat.le_of_not_lt hlt)
    rw [isLevel, hactions, htargets]
    rfl

/-! ## Steps -/

theorem height_errorState : height errorState = 0 := by decide +kernel

section Step

variable {a b : Nat} {t : Terminal} {action : Action}

/-- What a state does on a token agrees with the heights. -/
theorem isLevel_of_mem_moves (h : action ∈ moves a t) : ∃ set, (membership t).testBit set ∧ action.isLevel a set := by
  have hlevel := isLevel_all a
  rw [isLevel, Bool.and_eq_true] at hlevel
  unfold moves at h
  split at h
  next code hfind =>
    obtain ⟨set, hset, hall⟩ := allFields_findField hlevel.1 hfind
    exact ⟨set, hset, List.all_eq_true.1 hall action h⟩
  next => cases h

/-- A part that is a token leads at most one up, and to the ground if it is a hash bang line; it is never a comment. -/
theorem height_le_of_terminal (h : .shift b ∈ moves a t ∨ b = targetOn a t ∧ b ≠ a ∧ b ≠ errorState) :
    height b ≤ height a + 1 ∧ (t.isRemark → height b = 0 ∧ t.isExtra = false) := by
  have hlevel : ∃ set, (membership t).testBit set ∧ Action.isLevel a set (.shift b) := by
    rcases h with h | ⟨rfl, hne, hok⟩
    · exact isLevel_of_mem_moves h
    · unfold targetOn at hne hok ⊢
      split
      next h => exact isLevel_of_mem_moves (List.mem_of_getLast? h)
      next h =>
        have hagain := isLevel_of_mem_moves (List.mem_of_getLast? h)
        exact hagain
      next h => simp [h] at hne
      next => simp at hok
  obtain ⟨set, hset, hlevel⟩ := hlevel
  simp only [Action.isLevel, Bool.and_eq_true, Bool.or_eq_true, Bool.not_eq_true', Nat.ble_eq,
    decide_eq_true_eq] at hlevel
  refine ⟨hlevel.1, fun ht => ?_⟩
  rcases hlevel.2 with hbeyond | ⟨hground, hbeyond⟩
  · have hnot := test_of_setsBeyond hbeyond hset
    rw [ht] at hnot
    cases hnot
  · exact ⟨hground, by simpa using test_of_setsBeyond hbeyond hset⟩

/-- A part that is a construct leads at most one up. -/
theorem height_le_of_targetOf (a : Nat) (n : Nonterminal) : height (targetOf a n) ≤ height a + 1 := by
  have hlevel := isLevel_all a
  rw [isLevel, Bool.and_eq_true] at hlevel
  rcases allTargets_findTarget (n := n.index) hlevel.2 with h | h
  · rw [targetOf, h, height_errorState]
    exact Nat.zero_le _
  · exact Nat.le_of_ble_eq_true h

/-- A construct other than a program ends above all hash bang lines. -/
theorem width_le_of_reduces {r : Reduction} (h : Reduces a r) : r.width ≤ height a ∨ r.result = .program := by
  have hlevel := isLevel_all a
  rw [isLevel, Bool.and_eq_true] at hlevel
  obtain ⟨set, code, hall, hmem⟩ := allFields_everyMove hlevel.1 h.mem_rowMoves
  have hreduce := List.all_eq_true.1 hall _ hmem
  rwa [Action.isLevel, Bool.or_eq_true, Nat.ble_eq, decide_eq_true_eq] at hreduce

end Step
end Grammar
end Bookmarklet.Script
