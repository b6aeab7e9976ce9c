import Bookmarklet.Script.Parser.Recovery

/-!
# Parsing a source

`parse` builds the syntax tree of a source. Sources that do not conform to the grammar have a tree too, with error
nodes and missing tokens where recovery set in.
-/

namespace Bookmarklet.Script

namespace Parser

/-! ## The next token -/

/-- How many characters no token can be found in, from a place where none was found. -/
def strayLength : Nat → Cursor → Nat
  | 0, _ => 0
  | fuel + 1, cursor =>
    let scan := (Mode.ofIndex (Grammar.modeOf Grammar.errorState)).scan cursor
    if scan.found.isSome then 0
    else if scan.reached = 0 then
      if cursor.rest.isEmpty then 0 else 1 + strayLength fuel (cursor.advance 1)
    else scan.reached + strayLength fuel (cursor.advance scan.reached)

/-- The part that a token at a cursor becomes: `start` and `stop` count characters from there. -/
def leafAt (cursor : Cursor) (start stop : Nat) (leaf : List Char → Leaf) (extra : Bool) : Subtree :=
  let span : Span :=
    { gap := cursor.rest.take start, origin := cursor.position, start := (cursor.advance start).position,
      stop := cursor.advance stop }
  .leaf (leaf ((cursor.rest.drop start).take (stop - start))) span extra

/-- A token with its text. -/
def tokenLeaf (t : Terminal) : List Char → Leaf
  | [] => .mark t
  | c :: cs => .token t c cs

/-- Reads a name as a keyword where the state expects that. -/
def asWord (state : Nat) (t : Terminal) (text : List Char) : Terminal :=
  match t, keyword? text with
  | .identifier, some word => if Grammar.expects state word then word else t
  | _, _ => t

/-- The token found by a pattern. Where the scan has passed blanks since, it starts at its end and has no text. -/
def patternLeaf (state : Nat) (cursor : Cursor) (t : Terminal) (start stop : Nat) : Subtree :=
  if stop < start then leafAt cursor stop stop (fun _ => .hollow t) false
  else leafAt cursor start stop (fun text => tokenLeaf (asWord state t text) text) (t == .endOfInput)

/-- The next token of a reading. If the state knows none there, error recovery is asked; failing that, the
characters up to the next token are stray. -/
def lex (state : Nat) (advanced : Bool) (cursor : Cursor) : Subtree :=
  let contextual := (Context.scan (Grammar.contextOf state) cursor).filter fun f =>
    0 < f.stop || !(state = Grammar.errorState || !advanced || Grammar.targetOn state f.terminal = state)
  match contextual with
  | some f => leafAt cursor f.start f.stop (tokenLeaf f.terminal) false
  | none =>
    let scan := (Mode.ofIndex (Grammar.modeOf state)).scan cursor
    match scan.found with
    | some t => patternLeaf state cursor t scan.start scan.stop
    | none =>
      let scan := (Mode.ofIndex (Grammar.modeOf Grammar.errorState)).scan cursor
      match scan.found with
      | some t => patternLeaf state cursor t scan.start scan.stop
      | none =>
        let next := if scan.reached = scan.start then scan.start + 1 else scan.reached
        let stop := next + strayLength (cursor.rest.length + 1) (cursor.advance next)
        leafAt cursor scan.start stop .stray false

/-! ## Advancing -/

/-- Performs the actions on a token, in order: reductions add readings, any other action ends the list. The result
tells whether the token is dealt with, whether there was a reduction, and where its readings begin. -/
def act (v state : Nat) (lookahead : Subtree) :
    List Grammar.Action → Bool → Option Nat → Parser → Parser × Bool × Bool × Option Nat
  | [], reduced, last, p => (p, false, reduced, last)
  | action :: rest, reduced, last, p =>
    match action with
    | .shift target => (p.push v (some (lookahead.withExtra false)) target, true, reduced, last)
    | .shiftAgain _ => act v state lookahead rest reduced last p
    | .shiftExtra => (p.push v (some (lookahead.withExtra true)) state, true, reduced, last)
    | .reduce r =>
      let before := p.readings.length
      let (p, created) := p.reduce v r
      act v state lookahead rest true (if created then some before else last) p
    | .accept => (p.accept v lookahead, true, reduced, last)
    | .recover => (p.recover v lookahead, true, reduced, last)

/-- A keyword read as a name. -/
def asName : Subtree → Option Subtree
  | .leaf (.token t first more) span extra =>
    if t.isKeyword then some (.leaf (.token .identifier first more) span extra) else none
  | _ => none

/-- Stops a reading at a token. -/
def pause (p : Parser) (v : Nat) (reading : Reading) (lookahead : Subtree) : Parser :=
  p.set v { reading with status := .paused lookahead, nodesAtError := reading.stack.weight.nodes }

/-- The actions of a state on a token. -/
def movesOn (state : Nat) (lookahead : Subtree) : List Grammar.Action :=
  match lookahead.symbol with
  | .terminal t => Grammar.moves state t
  | _ => []

/-- Takes a token in a reading, after the reductions that it calls for. A keyword that is not expected is taken for a
name; a token that does not fit pauses the reading. -/
def take (v : Nat) : Nat → Subtree → Parser → Parser
  | 0, _, p => p.halt v
  | fuel + 1, lookahead, p =>
    match p.readings[v]? with
    | none => p
    | some reading =>
      match act v reading.state lookahead (movesOn reading.state lookahead) false none p with
      | (p, true, _, _) => p
      | (p, false, _, some last) => take v fuel lookahead (p.renumber last v)
      | (p, false, true, none) => p.halt v
      | (p, false, false, none) =>
        match asName lookahead with
        | some name =>
          if Grammar.expects reading.state .identifier then take v fuel name p else p.pause v reading lookahead
        | none => p.pause v reading lookahead

/-- Reads the next token of a reading and takes it. -/
def advance (p : Parser) (v : Nat) : Parser :=
  match p.readings[v]? with
  | none => p
  | some reading =>
    let advanced := reading.stack.weight.cost == 0
      || reading.stack.hasAdvanced reading.nodesAtError p.height
    let lookahead := lex reading.state advanced reading.stack.place
    p.take v (64 * (p.fresh + 16)) lookahead

/-- Advances the readings in order, each until it gets past the place of the one before it. -/
def round : Nat → (v last : Nat) → Parser → Parser × Nat
  | 0, _, last, p => (p, last)
  | fuel + 1, v, last, p =>
    match p.readings[v]? with
    | none => (p, last)
    | some reading =>
      if reading.isActive then
        let p := p.advance v
        let byte := (p.readings[v]?.map (·.byte)).getD 0
        if last < byte || (0 < v && byte = last) then round fuel (v + 1) byte p else round fuel v last p
      else round fuel (v + 1) last p

/-! ## Choosing between readings -/

/-- Exchanges two readings. -/
def swap (p : Parser) (i j : Nat) : Parser :=
  match p.readings[i]?, p.readings[j]? with
  | some a, some b => (p.set i b).set j a
  | _, _ => p

/-- Compares reading `i` with the better ones from `j` on. Gives the place at which to go on: the next, or the same
where a reading was dropped. -/
def contest (standing : Standing) : Nat → (i j : Nat) → Parser → Parser × Nat
  | 0, i, _, p => (p, i + 1)
  | fuel + 1, i, j, p =>
    if i ≤ j then (p, i + 1)
    else
      match p.readings[j]? with
      | none => (p, i + 1)
      | some other =>
        match other.standing.compare standing with
        | .takeLeft => (p.remove i, i)
        | .preferLeft | .even =>
          match p.merge? j i with
          | some q => (q, i)
          | none => contest standing fuel i (j + 1) p
        | .preferRight =>
          match p.merge? j i with
          | some q => (q, i)
          | none => contest standing fuel i (j + 1) (p.swap i j)
        | .takeRight => contest standing fuel (i - 1) j (p.remove j)

/-- Drops the readings that were given up, merges those that can be, and puts the better ones first. Gives the least
cost of a reading that is not in an error. -/
def sort : Nat → (i : Nat) → Option Nat → Parser → Parser × Option Nat
  | 0, _, least, p => (p, least)
  | fuel + 1, i, least, p =>
    match p.readings[i]? with
    | none => (p, least)
    | some reading =>
      if reading.isHalted then sort fuel i least (p.remove i)
      else
        let reading := reading.settle
        let p := p.set i reading
        let standing := reading.standing
        let least :=
          if standing.inError then least
          else some (match least with | none => standing.cost | some c => min c standing.cost)
        let (p, next) := contest standing 64 i 0 p
        sort fuel next least p

/-- Lets the best reading recover if it is paused, and drops the other paused ones. -/
def resume : Nat → (i : Nat) → (live : Bool) → Option Nat → Parser → Parser × Option Nat
  | 0, _, _, least, p => (p, least)
  | fuel + 1, i, live, least, p =>
    match p.readings[i]? with
    | none => (p, least)
    | some reading =>
      match reading.status with
      | .paused lookahead =>
        if !live && p.accepted < maxReadings then
          let p := (p.set i { reading with status := .active }).handleError i lookahead
          resume fuel (i + 1) true (some reading.cost) p
        else resume fuel i live least (p.remove i)
      | _ => resume fuel (i + 1) true least p

/-- Keeps the best readings. Gives the least cost that one of them may come to. -/
def condense (p : Parser) : Parser × Option Nat :=
  let (p, least) := sort 256 0 none p
  let p := { p with readings := p.readings.take maxReadings }
  resume p.readings.length 0 false least p

/-- Reads the source to its end. -/
def run : Nat → (last : Nat) → Parser → Option Subtree
  | 0, _, p => p.finished
  | fuel + 1, last, p =>
    let (p, last) := round (fuel + 64) 0 last p
    let (p, least) := p.condense
    match p.finished, p.readings with
    | some finished, [] => some finished
    | none, [] => none
    | some finished, _ => if least.any (finished.cost < ·) then some finished else run fuel last p
    | none, _ => run fuel last p

end Parser

/-- The syntax tree of a source. -/
def parse (source : List Char) : Option Tree :=
  (Parser.run (16 * (source.length + 16)) 0 (.start source)).map (·.tree)

end Bookmarklet.Script
