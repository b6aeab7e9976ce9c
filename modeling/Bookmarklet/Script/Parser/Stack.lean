import Bookmarklet.Script.Grammar.Table
import Bookmarklet.Script.Parser.Subtree

/-!
# The stacks of a parse

A stack is a state with links to the stacks below it, each over the part that was pushed. Readings that reach the
same state at the same place share a stack with several links (`Stack.merge`), and taking parts from it follows every
path (`Stack.pop`).
-/

namespace Bookmarklet.Script

/-- A stack of states. A link without a part stands where error recovery began. -/
inductive Stack where
  | node (id state : Nat) (place : Cursor) (weight : Weight) (links : List (Option Subtree × Stack))

namespace Stack

/-- The number that tells a stack from others in the same state at the same place. -/
def id : Stack → Nat
  | node id _ _ _ _ => id

/-- The state on top. -/
def state : Stack → Nat
  | node _ state _ _ _ => state

/-- What is left of the source. -/
def place : Stack → Cursor
  | node _ _ place _ _ => place

/-- What the parts on a stack weigh; of several paths, the greatest preference and number of nodes count. -/
def weight : Stack → Weight
  | node _ _ _ weight _ => weight

/-- The parts on top with the stacks below them. -/
def links : Stack → List (Option Subtree × Stack)
  | node _ _ _ _ links => links

/-- How many bytes a stack covers. -/
def byte (s : Stack) : Nat := s.place.position.byte

/-- The empty stack before a source. -/
def bottom (source : Cursor) : Stack := node 0 Grammar.startState source ⟨0, 0, 0, 0⟩ []

/-- A part, or the mark of an error, on top of a stack. -/
def push (below : Stack) (id : Nat) (part : Option Subtree) (state : Nat) : Stack :=
  match part with
  | none => node id state below.place below.weight [(none, below)]
  | some part =>
    let w := below.weight
    node id state part.span.stop
      { w with cost := w.cost + part.cost, preference := w.preference + part.weight.preference,
               nodes := w.nodes + part.nodeCount }
      [(some part, below)]

/-! ## Merging -/

/-- Two parts on top that need not be told apart. -/
def sameParts : Option Subtree → Option Subtree → Bool
  | none, none => true
  | some l, some r => l.interchangeable r
  | _, _ => false

/-- Two stacks in the same state, at the same place and of the same cost. -/
def mergeable (l r : Stack) : Bool :=
  l.state == r.state && l.byte == r.byte && l.weight.cost == r.weight.cost

/-- The preference that a link adds. -/
def linkPreference : Option Subtree → Int
  | none => 0
  | some part => part.weight.preference

/-- The number of nodes that a link adds. -/
def linkNodes : Option Subtree → Nat
  | none => 0
  | some part => part.nodeCount

/-- How many ways down a stack may keep. -/
def maxLinks : Nat := 8

/-- Replaces the first link that satisfies a test. -/
def replaceLink (old : Option Subtree × Stack → Bool) (new : Option Subtree × Stack) :
    List (Option Subtree × Stack) → List (Option Subtree × Stack)
  | [] => []
  | l :: ls => if old l then new :: ls else l :: replaceLink old new ls

/-- Adds a way down to a stack. A link to the same stack only competes by preference; one to a mergeable stack is
merged into it. -/
def addLink : Nat → Stack → Option Subtree × Stack → Stack
  | 0, s, _ => s
  | fuel + 1, node id state place weight links, (part, target) =>
    let preference := target.weight.preference + linkPreference part
    let same := fun l : Option Subtree × Stack => sameParts l.1 part && l.2.id == target.id
    let near := fun l : Option Subtree × Stack => sameParts l.1 part && mergeable l.2 target
    if target.id == id then node id state place weight links
    else
      match links.find? fun l => same l || near l with
      | some (old, stack) =>
        if stack.id == target.id then
          if linkPreference old < linkPreference part then
            node id state place { weight with preference := preference }
              (replaceLink same (part, stack) links)
          else node id state place weight links
        else
          let merged := target.links.foldl (addLink fuel) stack
          node id state place { weight with preference := max weight.preference preference }
            (replaceLink (fun l => same l || near l) (old, merged) links)
      | none =>
        if maxLinks ≤ links.length then node id state place weight links
        else
          node id state place
            { weight with preference := max weight.preference preference
                          nodes := max weight.nodes (target.weight.nodes + linkNodes part) }
            (links ++ [(part, target)])

/-- One stack with the ways down of both. -/
def merge (fuel : Nat) (l r : Stack) : Stack := r.links.foldl (addLink fuel) l

/-! ## Taking parts from a stack -/

/-- A way down a stack: where it has come to, the parts passed, and how many of them are not extra. -/
structure Path where
  stack : Stack
  parts : List Subtree
  depth : Nat

/-- How many ways down are followed at once. -/
def maxPaths : Nat := 64

/-- A way down, one link further. -/
def Path.follow (p : Path) : Option Subtree × Stack → Path
  | (none, below) => ⟨below, p.parts, p.depth + 1⟩
  | (some part, below) => ⟨below, part :: p.parts, if part.extra then p.depth else p.depth + 1⟩

/-- Where ways down have ended: each stack with the parts of the ways that lead to it. -/
abbrev Ends := List (Stack × List (List Subtree))

/-- Notes the end of a way down. -/
def noteEnd (p : Path) : Ends → Ends
  | [] => [(p.stack, [p.parts])]
  | (s, paths) :: rest =>
    if s.id == p.stack.id then (s, paths ++ [p.parts]) :: rest else (s, paths) :: noteEnd p rest

/-- What becomes of a way down: `ends` records it, `stops` gives it up. -/
structure Step where
  ends : Bool
  stops : Bool

/-- Where the ways down have come to: those that go on, those that have started, where ways ended, and how many ways
there are. -/
structure Front where
  kept : List Path
  added : List Path
  ends : Ends
  count : Nat

/-- Moves a way down by one link: the first link continues it, the others start new ones. -/
def moveDown (decide : Path → Step) (front : Front) (p : Path) : Front :=
  let step := decide p
  let ends := if step.ends then noteEnd p front.ends else front.ends
  match step.stops, p.stack.links with
  | true, _ | _, [] => { front with ends, count := front.count - 1 }
  | false, first :: others =>
    let others := others.take (maxPaths - front.count)
    { kept := front.kept ++ [p.follow first], added := front.added ++ others.map p.follow, ends,
      count := front.count + others.length }

/-- Moves every way down by one link; the new ways come behind all others. -/
def descendOnce (decide : Path → Step) (paths : List Path) (ends : Ends) : List Path × Ends :=
  let front := paths.foldl (moveDown decide) ⟨[], [], ends, paths.length⟩
  (front.kept ++ front.added, front.ends)

/-- Follows all ways down until none is left. -/
def descend (decide : Path → Step) : Nat → List Path → Ends → Ends
  | 0, _, ends => ends
  | _, [], ends => ends
  | fuel + 1, paths, ends =>
    let (paths, ends) := descendOnce decide paths ends
    descend decide fuel paths ends

/-- Takes a number of parts that are not extra, by every way down. -/
def pop (fuel count : Nat) (s : Stack) : Ends :=
  descend (fun p => ⟨p.depth == count, p.depth == count⟩) fuel [⟨s, [], 0⟩] []

/-- Takes all parts, by every way down. -/
def popAll (fuel : Nat) (s : Stack) : Ends :=
  descend (fun p => ⟨p.stack.links.isEmpty, false⟩) fuel [⟨s, [], 0⟩] []

/-- Takes an error from the top, where a link holds one: the stack below, and what the error skipped. -/
def popError? (s : Stack) : Option (Stack × List Subtree) :=
  s.links.findSome? fun
    | (some part, below) => if part.symbol == .error then some (below, part.children) else none
    | (none, _) => none

/-! ## What lies below an error -/

/-- A state that error recovery may return to: its place, how many parts lie above it, and the state. -/
structure Rung where
  place : Position
  depth : Nat
  state : Nat

/-- How deep error recovery looks for a state to return to. -/
def maxDepth : Nat := 16

/-- Notes the state that a way down has come to, unless it is known at that depth. -/
def noteRung (p : Path) (ladder : List Rung) : List Rung :=
  if (ladder.reverse.takeWhile (p.depth ≤ ·.depth)).any fun r => r.depth == p.depth && r.state == p.stack.state then
    ladder
  else ladder ++ [⟨p.stack.place.position, p.depth, p.stack.state⟩]

/-- The states below a stack, from the top down. -/
def ladder (fuel : Nat) (paths : List Path) (found : List Rung) : List Rung :=
  match fuel, paths with
  | 0, _ | _, [] => found
  | fuel + 1, paths =>
    let live := paths.filter (·.depth ≤ maxDepth)
    let (next, _) := descendOnce (fun _ => ⟨false, false⟩) live []
    ladder fuel next (live.foldl (fun found p => noteRung p found) found)

/-- Whether the parser got on since the last error; `nodes` is how many nodes it had then. -/
def hasAdvanced (nodes : Nat) : Nat → Stack → Bool
  | 0, _ => false
  | fuel + 1, node _ _ _ weight links =>
    match links with
    | (some part, below) :: _ =>
      if 0 < part.span.total then true
      else if nodes < weight.nodes && part.cost == 0 then hasAdvanced nodes fuel below
      else false
    | _ => false

end Stack
end Bookmarklet.Script
