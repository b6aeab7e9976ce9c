import Bookmarklet.Script.Parser.Reading

/-!
# Recovery from errors

When no reading can take the next token, the best one recovers. It tries each token whose absence would explain the
error, then marks the error on its stack, and from there either returns to an earlier state that can go on
(`recoverTo`) or skips the token (`recover`). Recoveries that cost more than another reading are not pursued.
-/

namespace Bookmarklet.Script.Parser

/-- Looks through readings, the first of which has the number `j`, for one that makes reading `v` pointless if that
comes to a given cost. The readings compared are settled. -/
def findBetter (reading : Reading) (v cost : Nat) : (j : Nat) → List Reading → List Reading × Bool
  | _, [] => ([], false)
  | j, other :: rest =>
    if j = v || !other.isActive || other.byte < reading.byte then
      let (rest, found) := findBetter reading v cost (j + 1) rest
      (other :: rest, found)
    else
      let other := other.settle
      let better :=
        match ({ reading.standing with cost, inError := false } : Standing).compare other.standing with
        | .takeRight => true
        | .preferRight => other.mergeable reading
        | _ => false
      if better then (other :: rest, true)
      else
        let (rest, found) := findBetter reading v cost (j + 1) rest
        (other :: rest, found)

/-- Whether a finished parse or a reading makes reading `v` pointless if that comes to a given cost. -/
def betterExists (p : Parser) (v : Nat) (reading : Reading) (cost : Nat) : Parser × Bool :=
  if p.finished.any (·.cost ≤ cost) then (p, true)
  else
    let (readings, found) := findBetter reading v cost 0 p.readings
    ({ p with readings }, found)

/-- The root that a reading is accepted for: its last construct with all other parts; none if that is a token. -/
def root? (parts : List Subtree) : Option Subtree :=
  let after := (parts.reverse.takeWhile (·.extra)).reverse
  match (parts.take (parts.length - after.length)).reverse with
  | .branch symbol shape children span _ _ :: before =>
    some (Subtree.wrap symbol shape span.stop (before.reverse ++ children ++ after))
  | _ => none

/-- Accepts a reading at the end of the source: the constructs on its stack become the root. -/
def accept (p : Parser) (v : Nat) (lookahead : Subtree) : Parser :=
  let p := p.push v (some lookahead) Grammar.startState
  match p.readings[v]? with
  | none => p
  | some reading =>
    let roots := ((reading.stack.popAll p.height).flatMap (·.2)).filterMap root?
    let choose := fun (best : Option Subtree) new =>
      match best with
      | none => some new
      | some old => if old.replaces new then some new else some old
    { p.halt v with finished := roots.foldl choose p.finished, accepted := p.accepted + roots.length }

/-- Adds the reading that returns from another to an earlier state, if a stack below has that state; what was read
since becomes an error. Tells whether there is any so far. -/
def addReturn (origin : Reading) (goal : Nat) (sofar : Parser × Bool) (group : Stack × List (List Subtree)) :
    Parser × Bool :=
  if group.1.state ≠ goal then sofar
  else
    let (stack, earlier) := group.1.popError?.getD (group.1, [])
    let (children, extras) := Subtree.splitExtras (earlier ++ group.2.headD [])
    let error := (Subtree.wrap .error .plain stack.place children).withExtra true
    let parts := if children.isEmpty then extras else error :: extras
    let (reading, fresh) := Reading.pushAll goal parts (⟨stack, origin.nodesAtError, .active, none⟩, sofar.1.fresh)
    ({ sofar.1 with fresh }.append reading, true)

/-- Adds the readings that return to an earlier state from a reading. Tells whether there are any. -/
def recoverTo (p : Parser) (v depth goal : Nat) : Parser × Bool :=
  match p.readings[v]? with
  | none => (p, false)
  | some origin => (origin.stack.pop p.height depth).foldl (addReturn origin goal) (p, false)

/-- Returns to the first state below the error in which the token is valid, unless that is pointless. -/
def returnToState (p : Parser) (v : Nat) (reading : Reading) (token : Terminal) :
    List Stack.Rung → Parser × Bool
  | [] => (p, false)
  | rung :: rungs =>
    let place := reading.stack.place.position
    if rung.state = Grammar.errorState || rung.place.byte = place.byte
        || p.readings.any fun r => r.state == rung.state && r.byte == place.byte then
      returnToState p v reading token rungs
    else
      let cost := reading.cost + Cost.skippedNode * rung.depth + Cost.skippedByte * (place.byte - rung.place.byte)
        + Cost.skippedLine * (place.line - rung.place.line)
      let (p, pointless) := p.betterExists v reading cost
      if pointless then (p, false)
      else if Grammar.expects rung.state token then
        let depth := if 0 < reading.progress then rung.depth + 1 else rung.depth
        let (q, found) := p.recoverTo v depth rung.state
        if found then (q, true) else returnToState p v reading token rungs
      else returnToState p v reading token rungs

/-- A token that is skipped: comments are extra. -/
def skippable (lookahead : Subtree) : Subtree :=
  match lookahead.symbol with
  | .terminal .comment | .terminal .htmlComment => lookahead.withExtra true
  | _ => lookahead

/-- Puts a skipped token behind those that a reading has skipped before. -/
def skip (p : Parser) (v : Nat) (reading : Reading) (lookahead : Subtree) : Parser :=
  let skipped := Subtree.wrap .skipped .plain reading.stack.place [skippable lookahead]
  if reading.progress = 0 then p.push v (some skipped) Grammar.errorState
  else
    match reading.stack.pop p.height 1 with
    | [] => p
    | (stack, paths) :: _ =>
      let skipped := Subtree.wrap .skipped .plain reading.stack.place (paths.headD [] ++ [skipped])
      (p.set v ⟨stack, reading.nodesAtError, .active, reading.ladder⟩).push v (some skipped) Grammar.errorState

/-- Accepts a reading in an error at the end of the source; elsewhere skips the token, unless that is pointless. A
reading that has `returned` to an earlier state is given up if there are many. -/
def pass (p : Parser) (v : Nat) (reading : Reading) (lookahead : Subtree) (returned : Bool) : Parser :=
  if returned && maxReadings < p.readings.length then p.halt v
  else if lookahead.symbol == .terminal .endOfInput then
    let error := Subtree.wrap .error .plain reading.stack.place []
    (p.push v (some error) Grammar.startState).accept v lookahead
  else
    let span := lookahead.span
    let cost := reading.cost + Cost.skippedNode + Cost.skippedByte * span.total
      + Cost.skippedLine * span.totalLines
    let (p, pointless) := p.betterExists v reading cost
    if pointless then p.halt v else p.skip v reading lookahead

/-- Goes on behind an error with a token: returns to an earlier state, or skips the token, or both side by side. -/
def recover (p : Parser) (v : Nat) (lookahead : Subtree) : Parser :=
  match p.readings[v]? with
  | none => p
  | some reading =>
    let reading := reading.settle
    let p := p.set v reading
    let (p, returned) :=
      match lookahead.symbol, reading.ladder with
      | .terminal token, some ladder => p.returnToState v reading token ladder
      | _, _ => (p, false)
    p.pass v reading lookahead returned

/-- How many steps a sweep of reductions may take. -/
def sweep : Nat := 256

/-- Inserts the first token, in table order, that lets a reading go on with the next one. Tells whether there is
one. -/
def insertMissing (p : Parser) (v : Nat) (reading : Reading) (lookahead : Terminal) :
    List Terminal → Parser × Bool
  | [] => (p, false)
  | t :: ts =>
    let state := Grammar.targetOn reading.state t
    let reduces :=
      match Grammar.moves state lookahead with
      | .reduce _ :: _ => true
      | _ => false
    if t = .endOfInput || state = Grammar.errorState || state = reading.state || !reduces then
      insertMissing p v reading lookahead ts
    else
      let copy := p.readings.length
      let part := Subtree.leaf (.missing t) (.nothing reading.stack.place) false
      let q := (p.append { reading with ladder := none }).push copy (some part) state
      let only := if lookahead = .endOfInput then none else some lookahead
      let (q, able) := q.reduceAll copy q.readings.length only sweep 0 copy false
      if able then (q, true) else insertMissing q v reading lookahead ts

/-- Marks the error in all readings that came of one, and merges them; one missing token is tried on the way. -/
def markErrors (lookahead : Option Terminal) : List Nat → Bool → Parser → Parser
  | [], _, p => p
  | v :: vs, inserted, p =>
    match p.readings[v]? with
    | none => markErrors lookahead vs inserted p
    | some reading =>
      let (q, fixed) :=
        match inserted, lookahead with
        | false, some t => p.insertMissing v reading t Terminal.all
        | _, _ => (p, false)
      markErrors lookahead vs (inserted || fixed) (q.push v none Grammar.errorState)

/-- Begins the recovery of a reading that cannot take a token. -/
def handleError (p : Parser) (v : Nat) (lookahead : Subtree) : Parser :=
  let before := p.readings.length
  let p := (p.reduceAll v before none sweep 0 v false).1
  let added := p.readings.length - before
  let p := markErrors lookahead.firstTerminal? (v :: (List.range added).map (before + ·)) false p
  let p := (List.range added).foldl (fun p _ => (p.merge? v before).getD p) p
  let p := p.modify v fun r =>
    { r with ladder := some (Stack.ladder p.height [⟨r.stack, [], 0⟩] []) }
  p.recover v lookahead

end Bookmarklet.Script.Parser
