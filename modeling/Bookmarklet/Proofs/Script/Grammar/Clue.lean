import Mathlib.Algebra.Group.Nat.Defs
import Bookmarklet.Proofs.Script.Grammar.Row
import Bookmarklet.Script.Parser.Subtree

/-!
# What a state tells of the parts on the stack

A state may be reached over certain parts only: when the body of a function has been read, its name is two parts below,
and it is an identifier. `Grammar.clues` holds what is known of the topmost parts in the states where it matters. Each
step of the table agrees with it (`Grammar.agrees_of_shift`, `Grammar.agrees_of_targetOf`), and a reduction finds its
parts as its shape expects them (`Grammar.isClear_of_reduces`).
-/

namespace Bookmarklet.Script

/-- Tokens that no rule of the grammar mentions: comments and the end of the source. -/
def Terminal.isExtra (t : Terminal) : Bool := t = .comment || t = .htmlComment || t = .endOfInput

/-- Tokens of strings. -/
def Terminal.isQuoted : Terminal → Bool
  | .doubleQuote | .singleQuote | .doubleFragment | .singleFragment | .jsxDoubleFragment | .jsxSingleFragment
  | .escapeSequence | .htmlCharacterReference => true
  | _ => false

/-- Kinds of names, under which the tokens and patterns of a construct may be seen. -/
def Kind.isName : Kind → Bool
  | .identifier | .propertyIdentifier | .statementIdentifier | .shorthandPropertyIdentifier
  | .shorthandPropertyIdentifierPattern => true
  | _ => false

namespace Grammar

/-- Declarations with a name of their own. -/
def Nonterminal.isNamed (n : Nonterminal) : Bool :=
  n = .functionDeclaration || n = .generatorFunctionDeclaration || n = .classDeclaration

/-- Several tokens between the quotation marks of a string. -/
def Nonterminal.isQuoted : Nonterminal → Bool
  | .stringDoubleRepeat | .stringSingleRepeat | .jsxStringDoubleRepeat | .jsxStringSingleRepeat => true
  | _ => false

/-- Cases of a `switch`, one or several. -/
def Nonterminal.isCase (n : Nonterminal) : Bool := n = .switchCase || n = .switchDefault || n = .switchBodyRepeat

/-! ## Clues -/

/-- What is known of a part on the stack. -/
inductive Clue where
  | any
  | token
  | identifier
  /-- A token of a string, or several of them. -/
  | text
  /-- A token or a case of a `switch`, or several cases. -/
  | switchPart
  | program
  deriving DecidableEq

/-- Whether a clue is right about a part. -/
def Clue.fits : Clue → Symbol → Bool
  | any, _ => true
  | token, .terminal _ => true
  | identifier, .terminal t => t = .identifier
  | text, .terminal t => t.isQuoted
  | text, .construct n => n.isQuoted
  | switchPart, .terminal _ => true
  | switchPart, .construct n => n.isCase
  | program, .construct n => n = .program
  | _, _ => false

/-- What all parts of a construct are, where they are of one sort. -/
def Nonterminal.inside? : Nonterminal → Option Clue
  | .string | .jsxString | .stringDoubleRepeat | .stringSingleRepeat | .jsxStringDoubleRepeat
  | .jsxStringSingleRepeat => some .text
  | .switchBody | .switchBodyRepeat => some .switchPart
  | _ => none

/-- What is known of the parts on top of the stack, from the top down, in some states. -/
def clueTable : List (List Clue × List Nat) := [
  ([.program], [1502]),
  ([.identifier], [1155, 1159, 1171, 1172, 1196, 1198, 1330, 1336, 1354, 1356, 1363, 1364, 1386, 1393, 1492, 1494,
     1495, 1498]),
  ([.any, .identifier], [66, 69, 336, 341, 677, 681, 1353, 1358, 1362, 1365, 1388, 1389, 1390, 1394, 1395, 1396,
     1428, 1429, 1466, 1469, 1476, 1477, 1478, 1482]),
  ([.any, .any, .identifier], [67, 68, 70, 71, 72, 73, 339, 340, 342, 343, 344, 345, 396, 407, 679, 680, 685, 686,
     687, 691]),
  ([.any, .any, .any, .identifier], [403, 404, 409, 410, 411, 415]),
  ([.token], [123, 147, 155, 296, 297, 298, 299, 300, 301, 302, 303, 304, 305, 306, 313, 314, 321, 322, 323, 333,
     354, 421, 429, 430, 438, 439, 467, 468, 1325, 1326]),
  ([.any, .token], [24, 39, 378, 379]),
  ([.any, .any, .token], [367]),
  ([.text], [1140, 1141, 1179, 1180, 1190, 1191, 1200, 1201, 1204, 1205]),
  ([.text, .text], [561, 599, 1080, 1107, 1109, 1153, 1154, 1168, 1169, 1181, 1182, 1183, 1184, 1194, 1195, 1202,
     1203, 1206, 1207]),
  ([.text, .text, .text], [563, 603, 1081, 1108, 1110]),
  ([.switchPart], [1059]),
  ([.switchPart, .switchPart], [392, 1065, 1073]),
  ([.switchPart, .switchPart, .switchPart], [401])]

/-- For each state the number of its row in the table, and one; four bits per state. -/
@[irreducible] def clueRows : Nat :=
  clueTable.zipIdx.foldl (fun m row => row.1.2.foldl (fun m state => m + (row.2 + 1) * 16 ^ state) m) 0

/-- What is known of the parts on top of the stack in a state, from the top down. -/
def clues (state : Nat) : List Clue :=
  match clueRows / 16 ^ state % 16 with
  | 0 => []
  | row + 1 => (clueTable.map (·.1)).getD row []

/-- Whether what is known in one state agrees with what is known in the state below, under a part that leads from there
to here. -/
def agrees (fits : Clue → Bool) (below : List Clue) : List Clue → Bool
  | [] => true
  | clue :: rest => fits clue && rest.isPrefixOf below

/-- The clue that a state has about the part at a position of a reduction. -/
def Reduction.clueAt? (r : Reduction) (known : List Clue) (position : Nat) : Option Clue :=
  if position < r.width then known[r.width - 1 - position]? else none

/-- Whether the parts of a reduction are known as far as its shape tells something of them: the names of declarations are
identifiers, labels are tokens, strings are made of their tokens, and a `switch` of cases. Constructs that do not show
have neither names nor labels. -/
def Reduction.isClear (r : Reduction) (known : List Clue) : Bool :=
  (r.shape.aliases.all (·.2.isName))
    && (r.shape.fields.all fun (position, field) =>
      match field with
      | .name => r.result.kind?.isSome && (!r.result.isNamed
          || r.clueAt? known position = some .identifier && (r.shape.alias? position).isNone)
      | .label => r.result.kind?.isSome && r.clueAt? known position = some .token
          && r.shape.alias? position = some .statementIdentifier
      | _ => true)
    && (r.result.inside?.all fun clue => r.shape = .plain && known.take r.width = List.replicate r.width clue)
    && (r.result != .program || r.shape = .plain)

/-! ## The table agrees with the clues -/

/-- Whether all fields of a row pass a test of the set of terminals and of what the state does on them. -/
def allFields (test : Nat → Nat → Bool) : Nat → Nat → Bool
  | 0, _ => true
  | fuel + 1, fields =>
    match fields with
    | 0 => true
    | fields => test (fields / 0x2000 % 0x200) (fields % 0x2000) && allFields test fuel (fields / 0x400000)

/-- Whether all fields of a row of targets pass a test of the nonterminal, by number, and of the target. -/
def allTargets (test : Nat → Nat → Bool) : Nat → Nat → Bool
  | 0, _ => true
  | fuel + 1, fields =>
    match fields with
    | 0 => true
    | fields => test (fields / 0x800 % 0x80 - 1) (fields % 0x800) && allTargets test fuel (fields / 0x40000)

/-- The sets with a terminal that fails a test, one bit per set. -/
def setsBeyond (test : Terminal → Bool) : Nat :=
  Terminal.all.foldl (fun sets t => if test t then sets else sets ||| membership t) 0

/-- Whether a clue is right about all terminals of a set. -/
def Clue.fitsSet (set : Nat) : Clue → Bool
  | any | token | switchPart => true
  | identifier => !(setsBeyond (· = .identifier)).testBit set
  | text => !(setsBeyond (·.isQuoted)).testBit set
  | program => false

/-- Whether an action of a state on a set of terminals agrees with the clues. Only comments are extra on the way. -/
def Action.isClear (state set : Nat) : Action → Bool
  | .shift target | .shiftAgain target => agrees (·.fitsSet set) (clues state) (clues target)
  | .reduce r => r.isClear (clues state)
  | .accept => clues state = [.program] && !(setsBeyond (·.isExtra)).testBit set
  | .shiftExtra => !(setsBeyond (·.isExtra)).testBit set
  | .recover => true

/-- Whether all that a state does agrees with the clues. -/
def isClear (state : Nat) : Bool :=
  allFields (fun set code => (decodeMoves code).all (·.isClear state set)) Terminal.count (actionRow state / 0x100)
    && allTargets (fun n target => agrees (·.fits (.construct (.ofNat n))) (clues state) (clues target)) 128
      (page 40 gotoRows 0 state)

/-- Behind the last page there is nothing. -/
theorem page_of_le {pages : List (List Nat)} {i : Nat} (h : 40 * pages.length ≤ i) : page 40 pages 0 i = 0 := by
  have hpage : pages.getD (i / 40) [] = [] := by
    rw [List.getD_eq_getElem?_getD, List.getElem?_eq_none (by omega), Option.getD_none]
  rw [page, hpage, List.getD_nil]

theorem isClear_all (state : Nat) : isClear state := by
  have hall : (List.range 1640).all isClear = true := by decide +kernel
  by_cases hlt : state < 1640
  · exact List.all_eq_true.1 hall state (List.mem_range.2 hlt)
  · have hactions : actionRow state = 0 := page_of_le (Nat.le_of_not_lt hlt)
    have htargets : page 40 gotoRows 0 state = 0 := page_of_le (Nat.le_of_not_lt hlt)
    rw [isClear, hactions, htargets]
    rfl

section Test

variable {test : Nat → Nat → Bool}

theorem allFields_findField {sets code : Nat} : ∀ {fuel fields : Nat}, allFields test fuel fields →
    findField sets fuel fields = some code → ∃ set, sets.testBit set ∧ test set code
  | 0, _, _, hfind => by cases hfind
  | fuel + 1, fields, h, hfind => by
    rw [findField] at hfind
    rw [allFields.eq_def] at h
    split at hfind
    · cases hfind
    next hne =>
      simp only at h
      rw [Bool.and_eq_true] at h
      split at hfind
      next hset =>
        cases hfind
        exact ⟨_, hset, h.1⟩
      next => exact allFields_findField h.2 hfind

theorem allFields_everyMove {action : Action} : ∀ {fuel fields : Nat}, allFields test fuel fields →
    action ∈ everyMove fuel fields → ∃ set code, test set code ∧ action ∈ decodeMoves code
  | 0, _, _, hmem => by cases hmem
  | fuel + 1, fields, h, hmem => by
    rw [everyMove] at hmem
    rw [allFields.eq_def] at h
    split at hmem
    · cases hmem
    next hne =>
      simp only at h
      rw [Bool.and_eq_true] at h
      rcases List.mem_append.1 hmem with hmem | hmem
      · exact ⟨_, _, h.1, hmem⟩
      · exact allFields_everyMove h.2 hmem

theorem allTargets_findTarget {n : Nat} : ∀ {fuel fields : Nat}, allTargets test fuel fields →
    findTarget n fuel fields = errorState ∨ test n (findTarget n fuel fields)
  | 0, _, _ => .inl rfl
  | fuel + 1, fields, h => by
    rw [findTarget]
    rw [allTargets.eq_def] at h
    split
    · exact .inl rfl
    next hne =>
      simp only at h
      rw [Bool.and_eq_true] at h
      split
      next hn =>
        rw [hn, Nat.add_sub_cancel] at h
        exact .inr h.1
      next => exact allTargets_findTarget h.2

end Test

theorem test_of_setsBeyond {test : Terminal → Bool} {set : Nat} (h : (setsBeyond test).testBit set = false)
    {t : Terminal} (ht : (membership t).testBit set) : test t := by
  have hfold : ∀ (ts : List Terminal) (sets : Nat),
      (ts.foldl (fun sets t => if test t then sets else sets ||| membership t) sets).testBit set = false →
        sets.testBit set = false ∧ ∀ t ∈ ts, (membership t).testBit set → test t := by
    intro ts
    induction ts with
    | nil => exact fun sets h => ⟨h, nofun⟩
    | cons u us ih =>
      intro sets h
      obtain ⟨hsets, hall⟩ := ih _ h
      simp only at hsets
      split at hsets
      next hu => exact ⟨hsets, fun t ht => (List.mem_cons.1 ht).elim (fun he _ => he ▸ hu) (hall t)⟩
      next =>
        rw [Nat.testBit_or, Bool.or_eq_false_iff] at hsets
        refine ⟨hsets.1, fun t ht hm => (List.mem_cons.1 ht).elim (fun he => ?_) (hall t · hm)⟩
        rw [he, hsets.2] at hm
        cases hm
  exact (hfold Terminal.all 0 h).2 t t.mem_all ht

theorem Clue.fits_of_fitsSet {clue : Clue} {set : Nat} (h : clue.fitsSet set) {t : Terminal}
    (ht : (membership t).testBit set) : clue.fits (.terminal t) := by
  cases clue with
  | any => rfl
  | token => rfl
  | switchPart => rfl
  | identifier => exact test_of_setsBeyond (by simpa [fitsSet] using h) ht
  | text => exact test_of_setsBeyond (by simpa [fitsSet] using h) ht
  | program => cases h

theorem agrees_mono {fits fits' : Clue → Bool} (h : ∀ clue, fits clue → fits' clue) {below above : List Clue}
    (ha : agrees fits below above) : agrees fits' below above := by
  cases above with
  | nil => rfl
  | cons clue rest =>
    rw [agrees, Bool.and_eq_true] at ha ⊢
    exact ha.imp_left (h clue)

/-! ## Steps -/

theorem clues_errorState : clues errorState = [] := by decide +kernel

section Step

variable {a b : Nat} {t : Terminal} {action : Action}

/-- What a state does on a token agrees with the clues. -/
theorem isClear_of_mem_moves (h : action ∈ moves a t) : ∃ set, (membership t).testBit set ∧ action.isClear a set := by
  have hclear := isClear_all a
  rw [isClear, Bool.and_eq_true] at hclear
  unfold moves at h
  split at h
  next code hfind =>
    obtain ⟨set, hset, hall⟩ := allFields_findField hclear.1 hfind
    exact ⟨set, hset, List.all_eq_true.1 hall action h⟩
  next => cases h

/-- A token leads to a state that knows of it. -/
theorem agrees_of_terminal (h : .shift b ∈ moves a t ∨ b = targetOn a t ∧ b ≠ a) :
    agrees (·.fits (.terminal t)) (clues a) (clues b) := by
  rcases h with h | ⟨rfl, hne⟩
  · obtain ⟨set, hset, hclear⟩ := isClear_of_mem_moves h
    exact agrees_mono (fun clue hc => Clue.fits_of_fitsSet hc hset) hclear
  · unfold targetOn at hne ⊢
    split
    next h =>
      obtain ⟨set, hset, hclear⟩ := isClear_of_mem_moves (List.mem_of_getLast? h)
      exact agrees_mono (fun clue hc => Clue.fits_of_fitsSet hc hset) hclear
    next h =>
      obtain ⟨set, hset, hclear⟩ := isClear_of_mem_moves (List.mem_of_getLast? h)
      exact agrees_mono (fun clue hc => Clue.fits_of_fitsSet hc hset) hclear
    next h => simp [h] at hne
    next => rw [clues_errorState, agrees]

/-- A construct leads to a state that knows of it. -/
theorem agrees_of_targetOf (a : Nat) (n : Nonterminal) :
    agrees (·.fits (.construct n)) (clues a) (clues (targetOf a n)) := by
  have hclear := isClear_all a
  rw [isClear, Bool.and_eq_true] at hclear
  rcases allTargets_findTarget (n := n.index) hclear.2 with h | h
  · rw [targetOf, h, clues_errorState, agrees]
  · rwa [Nonterminal.index, Nonterminal.ofNat_ctorIdx] at h

/-- A reduction finds its parts as its shape expects them. -/
theorem isClear_of_reduces {r : Reduction} (h : Reduces a r) : r.isClear (clues a) := by
  have hclear := isClear_all a
  rw [isClear, Bool.and_eq_true] at hclear
  obtain ⟨set, code, hall, hmem⟩ := allFields_everyMove hclear.1 h.mem_rowMoves
  exact List.all_eq_true.1 hall _ hmem

theorem clues_of_accept (h : .accept ∈ moves a t) : clues a = [.program] := by
  obtain ⟨_, -, hclear⟩ := isClear_of_mem_moves h
  rw [Action.isClear, Bool.and_eq_true] at hclear
  exact of_decide_eq_true hclear.1

theorem isExtra_of_accept (h : .accept ∈ moves a t) : t.isExtra := by
  obtain ⟨set, hset, hclear⟩ := isClear_of_mem_moves h
  rw [Action.isClear, Bool.and_eq_true] at hclear
  exact test_of_setsBeyond (by simpa using hclear.2) hset

theorem isExtra_of_shiftExtra (h : .shiftExtra ∈ moves a t) : t.isExtra := by
  obtain ⟨set, hset, hclear⟩ := isClear_of_mem_moves h
  exact test_of_setsBeyond (by simpa [Action.isClear] using hclear) hset

end Step
end Grammar
end Bookmarklet.Script
