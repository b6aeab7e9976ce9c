import Bookmarklet.Script.Grammar.Nonterminal
import Bookmarklet.Script.Grammar.Reduction
import Bookmarklet.Script.Tree

/-!
# Parts of a parse

What the parser pushes: tokens, and branches made by reductions or by error recovery. Each part knows its weight, so
that readings of a source can be compared while they grow. `Subtree.tree` turns a finished part into a syntax tree,
which leaves out the branches that only group or repeat.
-/

namespace Bookmarklet.Script

/-- What the grammar takes a part for. -/
inductive Symbol where
  | terminal (t : Terminal)
  | construct (n : Grammar.Nonterminal)
  /-- Text that fits nowhere. -/
  | error
  /-- Tokens skipped so far by error recovery. -/
  | skipped
  deriving DecidableEq

/-- Where a part lies: the blanks before it, where they start, where the part starts, and what follows it. -/
structure Span where
  gap : List Char
  origin : Position
  start : Position
  stop : Cursor

namespace Span

/-- Nothing, at a cursor. -/
def nothing (here : Cursor) : Span := ⟨[], here.position, here.position, here⟩

/-- The bytes of a part, without the blanks before it. -/
def size (s : Span) : Nat := s.stop.position.byte - s.start.byte

/-- The bytes of the blanks before a part. -/
def padding (s : Span) : Nat := s.start.byte - s.origin.byte

/-- The bytes of a part and of the blanks before it. -/
def total (s : Span) : Nat := s.stop.position.byte - s.origin.byte

/-- The line feeds in a part. -/
def lines (s : Span) : Nat := s.stop.position.line - s.start.line

/-- The line feeds in a part and in the blanks before it. -/
def totalLines (s : Span) : Nat := s.stop.position.line - s.origin.line

end Span

/-- What readings are compared by. -/
structure Weight where
  /-- How much error recovery had to do. -/
  cost : Nat
  /-- The preferences of the reductions. -/
  preference : Int
  /-- How many nodes of the tree lie below. -/
  nodes : Nat
  /-- How many of them lie directly below. -/
  children : Nat
  deriving Inhabited

/-- A part without parts of its own. -/
inductive Leaf where
  /-- A token, with its text, which is not empty. -/
  | token (terminal : Terminal) (first : Char) (more : List Char)
  /-- The end of the source or a terminator that a line break implies. -/
  | mark (terminal : Terminal)
  /-- A token that error recovery inserted. -/
  | missing (terminal : Terminal)
  /-- A token that lost its text: the scan went on past it over blanks and found nothing longer. -/
  | hollow (terminal : Terminal)
  /-- Characters that are no token. -/
  | stray (text : List Char)

/-- What the parser pushes. An extra part is a comment or skipped text, which no rule of the grammar mentions. -/
inductive Subtree where
  | leaf (leaf : Leaf) (span : Span) (extra : Bool)
  | branch (symbol : Symbol) (shape : Grammar.Shape) (children : List Subtree) (span : Span) (extra : Bool)
      (weight : Weight)

namespace Cost

/-- Each recovery from an error. -/
def recovery : Nat := 500

/-- Each token inserted. -/
def missing : Nat := 110

/-- Each node skipped. -/
def skippedNode : Nat := 100

/-- Each byte skipped. -/
def skippedByte : Nat := 1

/-- Each line skipped. -/
def skippedLine : Nat := 30

end Cost

namespace Leaf

/-- What the grammar takes a leaf for. -/
def symbol : Leaf → Symbol
  | token t _ _ | mark t | missing t | hollow t => .terminal t
  | stray _ => .error

/-- The kind of node that a leaf becomes, if any. -/
def kind? : Leaf → Option Kind
  | token t _ _ | missing t | hollow t => t.kind?
  | mark _ => none
  | stray _ => some .error

/-- The text of a leaf. -/
def text : Leaf → List Char
  | token _ first more => first :: more
  | mark _ | missing _ | hollow _ => []
  | stray text => text

/-- Whether error recovery inserted a leaf. -/
def isMissing : Leaf → Bool
  | missing _ => true
  | _ => false

/-- Whether a leaf stands for a token without showing any text. -/
def isFaulty : Leaf → Bool
  | missing _ | hollow _ => true
  | _ => false

/-- What a leaf adds to the cost of a reading. -/
def cost : Leaf → Nat
  | missing _ => Cost.missing + Cost.recovery
  | _ => 0

end Leaf

/-- The kind of node that a branch becomes, if any. -/
def Symbol.kind? : Symbol → Option Kind
  | terminal t => t.kind?
  | construct n => n.kind?
  | error => some .error
  | skipped => none

namespace Subtree

/-- What the grammar takes a part for. -/
def symbol : Subtree → Symbol
  | leaf l _ _ => l.symbol
  | branch s _ _ _ _ _ => s

/-- Where a part lies. -/
def span : Subtree → Span
  | leaf _ s _ => s
  | branch _ _ _ s _ _ => s

/-- Whether no rule of the grammar mentions a part. -/
def extra : Subtree → Bool
  | leaf _ _ e => e
  | branch _ _ _ _ e _ => e

/-- The parts of a part. -/
def children : Subtree → List Subtree
  | leaf _ _ _ => []
  | branch _ _ cs _ _ _ => cs

/-- What a part weighs. -/
def weight : Subtree → Weight
  | leaf l _ _ => ⟨l.cost, 0, 0, 0⟩
  | branch _ _ _ _ _ w => w

/-- How much error recovery a part needed. -/
def cost (s : Subtree) : Nat := s.weight.cost

/-- The kind of node that a part becomes, if any. -/
def kind? : Subtree → Option Kind
  | leaf l _ _ => l.kind?
  | branch s _ _ _ _ _ => s.kind?

/-- Whether a part becomes a node of its own. -/
def isVisible (s : Subtree) : Bool := s.kind?.isSome

/-- The same part, marked as extra or not. -/
def withExtra (extra : Bool) : Subtree → Subtree
  | leaf l s _ => leaf l s extra
  | branch s sh cs sp _ w => branch s sh cs sp extra w

/-- The same part with a preference added. -/
def prefer (preference : Int) : Subtree → Subtree
  | leaf l s e => leaf l s e
  | branch s sh cs sp e w => branch s sh cs sp e { w with preference := w.preference + preference }

/-- The first token of a part, if it has one. -/
def firstTerminal? : Subtree → Option Terminal
  | leaf (.token t _ _) _ _ | leaf (.mark t) _ _ | leaf (.missing t) _ _ | leaf (.hollow t) _ _ => some t
  | leaf (.stray _) _ _ => none
  | branch _ _ [] _ _ _ => none
  | branch _ _ (c :: _) _ _ _ => firstTerminal? c

/-- The span of consecutive parts; nothing where there are none. -/
def spanOf (here : Cursor) : List Subtree → Span
  | [] => .nothing here
  | c :: cs => { c.span with stop := (cs.getLast?.getD c).span.stop }

/-- What skipping a part costs, beside its bytes. -/
def skipCost (c : Subtree) : Nat :=
  if c.extra || (c.symbol == .error && c.children.isEmpty) then 0
  else if c.isVisible then Cost.skippedNode
  else Cost.skippedNode * c.weight.children

/-- What consecutive parts weigh under a branch; `position` counts those that are not extra. -/
def weighAll (wrapsError : Bool) (shape : Grammar.Shape) (position : Nat) : List Subtree → Weight
  | [] => ⟨0, 0, 0, 0⟩
  | c :: cs =>
    let rest := weighAll wrapsError shape (if c.extra then position else position + 1) cs
    let own := c.weight
    let named := (!c.extra && (shape.alias? position).isSome) || c.isVisible
    { cost := (if c.symbol == .skipped then 0 else own.cost) + (if wrapsError then c.skipCost else 0) + rest.cost
      preference := own.preference + rest.preference
      nodes := own.nodes + (if named then 1 else 0) + rest.nodes
      children := (if named then 1 else own.children) + rest.children }

/-- Wraps consecutive parts; `here` tells where, if there are none. -/
def wrap (symbol : Symbol) (shape : Grammar.Shape) (here : Cursor) (children : List Subtree) : Subtree :=
  let span := spanOf here children
  let wrapsError := symbol == .error || symbol == .skipped
  let weight := weighAll wrapsError shape 0 children
  let own :=
    if wrapsError then
      Cost.recovery + Cost.skippedByte * span.size + Cost.skippedLine * span.lines
    else 0
  branch symbol shape children span false { weight with cost := weight.cost + own }

/-- How many nodes a part adds to a reading; skipped tokens count as one more. -/
def nodeCount (s : Subtree) : Nat :=
  s.weight.nodes + (if s.isVisible then 1 else 0) + (if s.symbol == .skipped then 1 else 0)

/-- Parts at the end that are extra, and the parts before them. -/
def splitExtras (parts : List Subtree) : List Subtree × List Subtree :=
  let extras := (parts.reverse.takeWhile (·.extra)).reverse
  (parts.take (parts.length - extras.length), extras)

/-! ## Equal readings -/

/-- Two parts that need not be told apart on a stack. -/
def interchangeable (l r : Subtree) : Bool :=
  l.symbol == r.symbol
    && ((0 < l.cost && 0 < r.cost)
      || (l.span.padding == r.span.padding && l.span.size == r.span.size
        && l.children.length == r.children.length && l.extra == r.extra))

/-- The order in which the parse tables number symbols. -/
def rank : Symbol → Nat
  | .terminal t => t.index
  | .construct n => Terminal.count + n.index
  | .skipped => 65534
  | .error => 65535

mutual
/-- Compares two parts by symbol, then by number of children, then by the children in order. -/
def compare : Subtree → Subtree → Ordering
  | leaf l _ _, r => (Ord.compare (rank l.symbol) (rank r.symbol)).then (Ord.compare 0 r.children.length)
  | branch s _ cs _ _ _, r =>
    ((Ord.compare (rank s) (rank r.symbol)).then (Ord.compare cs.length r.children.length)).then
      (compareAll cs r.children)

/-- Compares consecutive parts one by one. -/
def compareAll : List Subtree → List Subtree → Ordering
  | [], _ => .eq
  | c :: cs, d :: ds => (compare c d).then (compareAll cs ds)
  | _ :: _, [] => .eq
end

/-- Whether the second of two readings of one text replaces the first. -/
def replaces (old new : Subtree) : Bool :=
  if new.cost ≠ old.cost then new.cost < old.cost
  else if new.weight.preference ≠ old.weight.preference then old.weight.preference < new.weight.preference
  else 0 < old.cost || compare old new == .gt

/-! ## The syntax tree -/

mutual
/-- The nodes that a part leaves in a tree: itself if it is visible, else those of its children. -/
def nodes (alias? : Option Kind) (field : Option Field) : Subtree → List Tree
  | leaf l span _ =>
    match if l.kind?.isSome then alias?.or l.kind? else none with
    | some kind => [.leaf ⟨kind, field, span.start, span.gap, l.isMissing, l.isFaulty⟩ l.text]
    | none => []
  | branch symbol shape children span _ weight =>
    match alias?.or symbol.kind? with
    | some kind =>
      let below := nodesOf shape none 0 children
      [.node ⟨kind, field, span.start, span.gap, false, 0 < weight.cost || below.any (·.info.faulty)⟩ below]
    | none => nodesOf shape field 0 children

/-- The nodes that the children of a branch leave; `inherited` is the part that the branch itself plays. -/
def nodesOf (shape : Grammar.Shape) (inherited : Option Field) (position : Nat) : List Subtree → List Tree
  | [] => []
  | c :: cs =>
    if c.extra then nodes none none c ++ nodesOf shape inherited position cs
    else
      nodes (shape.alias? position) ((shape.field? position).or inherited) c
        ++ nodesOf shape inherited (position + 1) cs
end

/-- The syntax tree of a part. -/
def tree (s : Subtree) : Tree :=
  match s.nodes none none with
  | t :: _ => t
  | [] => .node ⟨.error, none, s.span.start, [], false, 0 < s.cost⟩ []

end Subtree
end Bookmarklet.Script
