import Bookmarklet.Script.Grammar.Action
import Bookmarklet.Script.Grammar.Mode
import Bookmarklet.Script.Grammar.Rows

/-!
# Looking up the parse table

States are numbers; `errorState` is the one of error recovery and `startState` the one in which a parse begins.
`moves` gives the actions on a token, `target` where a token or a finished construct leads.
-/

namespace Bookmarklet.Script.Grammar

/-- The state of error recovery. -/
def errorState : Nat := 0

/-- The state in which a parse begins. -/
def startState : Nat := 1

/-- The row of a state: its moves on tokens. -/
def actionRow (state : Nat) : Nat := page 40 actionRows 0 state

/-- The lexical mode of a state, by number. -/
def modeOf (state : Nat) : Nat := actionRow state / 16 % 16

/-- The tokens that are looked for by their surroundings in a state. -/
def contextOf (state : Nat) : List Terminal := contexts.getD (actionRow state % 16) []

/-- The sets of terminals that a terminal belongs to, one bit per set. -/
def membership (t : Terminal) : Nat := page 12 memberships 0 t.index

/-- The actions that a field of a row stands for. -/
def decodeMoves (code : Nat) : List Action :=
  match code % 4 with
  | 0 => [.shift (code / 4)]
  | 1 => [.reduce (reductionAt (code / 4))]
  | _ => page 12 choices [] (code / 4)

/-- Finds the first field of a row whose set of terminals is among the sets given. No row has more fields than
there are terminals. -/
def findField (sets : Nat) : Nat → Nat → Option Nat
  | 0, _ => none
  | fuel + 1, fields =>
    if fields = 0 then none
    else if sets.testBit (fields / 0x2000 % 0x200) then some (fields % 0x2000)
    else findField sets fuel (fields / 0x400000)

/-- What the parser may do in a state on a token. -/
def moves (state : Nat) (t : Terminal) : List Action :=
  match findField (membership t) Terminal.count (actionRow state / 0x100) with
  | some code => decodeMoves code
  | none => []

/-- The actions of all fields of a row but those on the end of input alone. -/
def collectMoves : Nat → Nat → List Action
  | 0, _ => []
  | fuel + 1, fields =>
    if fields = 0 then []
    else
      let rest := collectMoves fuel (fields / 0x400000)
      if fields / 0x2000 % 0x200 = 1 then rest else decodeMoves (fields % 0x2000) ++ rest

/-- What the parser may do in a state on any token, in the order of the tokens. -/
def allMoves (state : Nat) : List Action := collectMoves Terminal.count (actionRow state / 0x100)

/-- Finds the state for a nonterminal in a row. -/
def findTarget (nonterminal : Nat) : Nat → Nat → Nat
  | 0, _ => errorState
  | fuel + 1, fields =>
    if fields = 0 then errorState
    else if fields / 0x800 % 0x80 = nonterminal + 1 then fields % 0x800
    else findTarget nonterminal fuel (fields / 0x40000)

/-- Where a finished construct leads; the error state if nowhere. -/
def targetOf (state : Nat) (n : Nonterminal) : Nat := findTarget n.index 128 (page 40 gotoRows 0 state)

/-- Where a token leads when it is pushed; the error state if nowhere. -/
def targetOn (state : Nat) (t : Terminal) : Nat :=
  match (moves state t).getLast? with
  | some (.shift target) => target
  | some (.shiftAgain target) => target
  | some .shiftExtra => state
  | _ => errorState

/-- Whether a state does anything on a token. -/
def expects (state : Nat) (t : Terminal) : Bool := !(moves state t).isEmpty

end Bookmarklet.Script.Grammar
