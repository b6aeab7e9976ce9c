import Bookmarklet.Script.Parser.Stack
import Bookmarklet.Script.Lexer
import Bookmarklet.Script.Context

/-!
# Readings of a source

The parser follows several readings of a source side by side. A `Reading` is a stack with what is known of its errors;
the `Parser` holds all readings, best first, and the finished parse. Here are the moves that do not concern errors:
merging readings, comparing them, reducing, and lexing the next token.
-/

namespace Bookmarklet.Script

/-- What is to become of a reading. -/
inductive Status where
  | active
  /-- Given up. -/
  | halted
  /-- Stopped at a token that does not fit. -/
  | paused (lookahead : Subtree)

/-- One reading of the source so far. -/
structure Reading where
  stack : Stack
  /-- How many nodes it had at its last error. -/
  nodesAtError : Nat
  status : Status
  /-- The states below its last error. -/
  ladder : Option (List Stack.Rung)

namespace Reading

/-- Whether a reading goes on. -/
def isActive (r : Reading) : Bool :=
  match r.status with
  | .active => true
  | _ => false

/-- Whether a reading was given up. -/
def isHalted (r : Reading) : Bool :=
  match r.status with
  | .halted => true
  | _ => false

/-- Whether a reading has stopped at a token. -/
def isPaused (r : Reading) : Bool :=
  match r.status with
  | .paused _ => true
  | _ => false

/-- The state on top. -/
def state (r : Reading) : Nat := r.stack.state

/-- How many bytes a reading has read. -/
def byte (r : Reading) : Nat := r.stack.byte

/-- How many nodes a reading has gained since its last error. -/
def progress (r : Reading) : Nat := r.stack.weight.nodes - r.nodesAtError

/-- The reading with its gains counted anew if it has fewer nodes than at its last error. -/
def settle (r : Reading) : Reading := { r with nodesAtError := min r.nodesAtError r.stack.weight.nodes }

/-- What error recovery has cost; a recovery that has just begun counts. -/
def cost (r : Reading) : Nat :=
  let begun := r.isPaused || (r.state == Grammar.errorState && (r.stack.links.head?.any (·.1.isNone)))
  r.stack.weight.cost + (if begun then Cost.recovery else 0)

/-- The reading with a part pushed, or with the mark of an error. -/
def push (r : Reading) (id : Nat) (part : Option Subtree) (state : Nat) : Reading :=
  let stack := r.stack.push id part state
  { r with stack, nodesAtError := if part.isNone then stack.weight.nodes else r.nodesAtError }

/-- Pushes consecutive parts in a reading, each under the next number. -/
def pushAll (state : Nat) (parts : List Subtree) (start : Reading × Nat) : Reading × Nat :=
  parts.foldl (fun (reading, fresh) part => (reading.push fresh (some part) state, fresh + 1)) start

/-- Whether two readings have come to the same place in the same state at the same cost. -/
def mergeable (l r : Reading) : Bool := l.isActive && r.isActive && l.stack.mergeable r.stack

/-- The first of two readings with the ways down of both. -/
def merge (fuel : Nat) (l r : Reading) : Reading :=
  let stack := l.stack.merge fuel r.stack
  { l with stack, nodesAtError := if l.state == Grammar.errorState then stack.weight.nodes else l.nodesAtError }

end Reading

/-! ## Comparing readings -/

/-- What two readings are compared by. -/
structure Standing where
  cost : Nat
  progress : Nat
  preference : Int
  inError : Bool

/-- The outcome of a comparison: one side is preferred, or so much better that the other is dropped. -/
inductive Verdict where
  | takeLeft | preferLeft | even | preferRight | takeRight

/-- How far behind a reading may fall, in cost times progress. -/
def maxDifference : Nat := 18 * Cost.skippedNode

namespace Standing

/-- Compares two standings. -/
def compare (a b : Standing) : Verdict :=
  if !a.inError && b.inError then (if a.cost < b.cost then .takeLeft else .preferLeft)
  else if a.inError && !b.inError then (if b.cost < a.cost then .takeRight else .preferRight)
  else if a.cost < b.cost then
    (if maxDifference < (b.cost - a.cost) * (1 + a.progress) then .takeLeft else .preferLeft)
  else if b.cost < a.cost then
    (if maxDifference < (a.cost - b.cost) * (1 + b.progress) then .takeRight else .preferRight)
  else if b.preference < a.preference then .preferLeft
  else if a.preference < b.preference then .preferRight
  else .even

end Standing

/-- How a reading stands. -/
def Reading.standing (r : Reading) : Standing where
  cost := r.cost + (if r.isPaused then Cost.skippedNode else 0)
  progress := r.progress
  preference := r.stack.weight.preference
  inError := r.isPaused || r.state == Grammar.errorState

/-! ## The parser -/

/-- The state of a parse. -/
structure Parser where
  /-- The readings, best first. -/
  readings : List Reading
  /-- A number that no stack has. -/
  fresh : Nat
  /-- The best complete parse. -/
  finished : Option Subtree
  /-- How many complete parses were found. -/
  accepted : Nat

namespace Parser

/-- How many readings outlast a token, and how many more may exist in between. -/
def maxReadings : Nat := 6
@[inherit_doc maxReadings] def slack : Nat := 4

/-- The parser before a source. -/
def start (source : List Char) : Parser where
  readings := [⟨.bottom (.ofText source), 0, .active, none⟩]
  fresh := 1
  finished := none
  accepted := 0

/-- A bound on the height of every stack. -/
def height (p : Parser) : Nat := p.fresh + 1

/-- Replaces a reading. -/
def set (p : Parser) (v : Nat) (r : Reading) : Parser := { p with readings := p.readings.set v r }

/-- Changes a reading. -/
def modify (p : Parser) (v : Nat) (f : Reading → Reading) : Parser :=
  { p with readings := p.readings.modify v f }

/-- Drops a reading. -/
def remove (p : Parser) (v : Nat) : Parser := { p with readings := p.readings.eraseIdx v }

/-- Adds a reading behind all others. -/
def append (p : Parser) (r : Reading) : Parser := { p with readings := p.readings ++ [r] }

/-- Gives a reading up. -/
def halt (p : Parser) (v : Nat) : Parser := p.modify v ({ · with status := .halted })

/-- Pushes a part in a reading. -/
def push (p : Parser) (v : Nat) (part : Option Subtree) (state : Nat) : Parser :=
  { p.modify v (·.push p.fresh part state) with fresh := p.fresh + 1 }

/-- Moves a reading to the place of an earlier one. It takes over the states below the last error if it has none. -/
def renumber (p : Parser) (source target : Nat) : Parser :=
  if source = target then p
  else
    match p.readings[source]? with
    | none => p
    | some r =>
      (p.modify target fun old => { r with ladder := r.ladder.or old.ladder }).remove source

/-- Merges a reading into an earlier one, if the two are mergeable. -/
def merge? (p : Parser) (target source : Nat) : Option Parser :=
  match p.readings[target]?, p.readings[source]? with
  | some l, some r => if l.mergeable r then some ((p.set target (l.merge p.height r)).remove source) else none
  | _, _ => none

/-! ## Reducing -/

/-- Wraps the parts that a reduction takes; of several ways down, the preferred one. Comments on top stay apart. -/
def wrapPaths (r : Grammar.Reduction) (here : Cursor) (paths : List (List Subtree)) : Subtree × List Subtree :=
  let wrap := Subtree.wrap (.construct r.result)
  match paths with
  | [] => (wrap r.shape here [], [])
  | first :: others =>
    let (children, extras) := Subtree.splitExtras first
    let choose := fun (best : Subtree × List Subtree) path =>
      let (children, extras) := Subtree.splitExtras path
      if best.1.replaces (wrap .plain here children) then (wrap r.shape here children, extras) else best
    others.foldl choose (wrap r.shape here children, extras)

/-- Adds the reading that a reduction leads to from one stack, or merges it into one that has come to the same
place. -/
def addReduced (v : Nat) (origin : Reading) (halted : Nat) (r : Grammar.Reduction) (p : Parser)
    (group : Stack × List (List Subtree)) : Parser :=
  if maxReadings + slack + halted < p.readings.length then p
  else
    let (stack, paths) := group
    let (part, extras) := wrapPaths r stack.place paths
    let state := Grammar.targetOf stack.state r.result
    let base : Reading := ⟨stack, origin.nodesAtError, .active, none⟩
    let (reading, fresh) := Reading.pushAll state (part.prefer r.preference :: extras) (base, p.fresh)
    let p := { p with fresh }
    let twin := (p.readings.zipIdx.find? fun (other, j) => j ≠ v && other.mergeable reading).map (·.2)
    match twin with
    | some j => p.modify j (·.merge p.height reading)
    | none => p.append reading

/-- Performs a reduction in a reading. The readings it leads to come behind all others; tells whether there are
any. -/
def reduce (p : Parser) (v : Nat) (r : Grammar.Reduction) : Parser × Bool :=
  match p.readings[v]? with
  | none => (p, false)
  | some origin =>
    let halted := p.readings.countP (·.isHalted)
    let groups := origin.stack.pop p.height r.width
    let q := groups.foldl (addReduced v origin halted r) p
    (q, p.readings.length < q.readings.length)

/-- The reductions among some actions, one for each construct and width. -/
def reductionsIn (actions : List Grammar.Action) : List Grammar.Reduction :=
  actions.foldl (fun found action =>
    match action with
    | .reduce r =>
      if r.width = 0 || found.any fun f => f.result == r.result && f.width == r.width then found else found ++ [r]
    | _ => found) []

/-- Whether some actions take a token. -/
def takesToken (actions : List Grammar.Action) : Bool :=
  actions.any fun
    | .shift _ | .recover => true
    | _ => false

/-- Drops a reading that cannot take the given token. -/
def removeFor (p : Parser) (lookahead : Option Terminal) (v : Nat) : Parser :=
  if lookahead.isSome then p.remove v else p

/-- Performs reductions in a reading one after another. Tells where the readings that the last one led to begin. -/
def reduceEach (v : Nat) (reductions : List Grammar.Reduction) (p : Parser) : Parser × Option Nat :=
  let step := fun (sofar : Parser × Option Nat) r =>
    let (q, created) := sofar.1.reduce v r
    (q, if created then some sofar.1.readings.length else none)
  reductions.foldl step (p, none)

/-- Performs all reductions that some token allows, or that the given token allows, in the reading `first` and in
those that come of it. Tells whether the given token can be taken then; readings where it cannot are dropped. -/
def reduceAll (first initial : Nat) (lookahead : Option Terminal) :
    Nat → (round v : Nat) → Bool → Parser → Parser × Bool
  | 0, _, _, able, p => (p, able)
  | fuel + 1, round, v, able, p =>
    match p.readings[v]? with
    | none => (p, able)
    | some reading =>
      let count := p.readings.length
      let merged := (List.range (v - initial)).findSome? fun j => p.merge? (initial + j) v
      match merged with
      | some q => reduceAll first initial lookahead fuel (round + 1) v able q
      | none =>
        let actions :=
          match lookahead with
          | some t => Grammar.moves reading.state t
          | none => Grammar.allMoves reading.state
        let takes := takesToken actions
        let (q, last) := p.reduceEach v (reductionsIn actions)
        let next := if v = first then count else v + 1
        match takes, last with
        | true, _ => reduceAll first initial lookahead fuel (round + 1) next true q
        | false, some created =>
          if round < maxReadings then
            reduceAll first initial lookahead fuel (round + 1) v able (q.renumber created v)
          else reduceAll first initial lookahead fuel (round + 1) next able (q.removeFor lookahead v)
        | false, none => reduceAll first initial lookahead fuel (round + 1) next able (q.removeFor lookahead v)

end Parser
end Bookmarklet.Script
