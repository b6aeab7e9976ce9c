import Bookmarklet.Proofs.Script.Shortening
import Bookmarklet.Script.Minify

/-!
# What stands between the tokens of a script

The writer goes through a tree once, and remembers only whether a statement has ended since the last token. Here is what
comes of that, said of the tree alone. `Tree.places` lists the nodes that the writer comes to, in document order, and
counts the tokens that it keeps (`Place.isToken`): all leaves but comments and the semicolons that end statements.
Between two of these tokens stands a semicolon if a statement ends behind the first one (`Tree.endsBehind`), unless a
brace closes; otherwise a blank if the two would join, and nothing else (`Tree.separator`).

* What is written depends on the tokens among the pieces, and on the numbers of tokens behind which a statement ends
  (`Piece.write_eq_follow`).
* The pieces of a tree have the tokens of its places and end statements where these do (`Tree.StandFor`): so it is for
  single tokens, a node and what it contains, and siblings, hence for all trees (`Tree.standFor_pieces`).
* A statement ends behind its last token, unless a semicolon is the next of its siblings (`Tree.SemicolonNext`), and no
  statement ends before the first token (`Tree.endsAfter_before`).
* So a tree is written as its tokens with what separates them (`Tree.emit_eq_layout`). The blanks are too few: there is a
  script whose short form is not accepted (`Piece.not_forall_check_minify`).
-/

namespace Bookmarklet.Script

namespace Piece

/-! ## Writing pieces -/

/-- A token as it is written. -/
structure Written where
  text : List Char
  isNumber : Bool

/-- The end of a token. -/
def Written.ending (w : Written) : Ending := ⟨w.text.getLastD ' ', w.isNumber⟩

/-- The tokens among some pieces, without those that have no text. -/
def tokens : List Piece → List Written
  | [] => []
  | terminator :: rest => tokens rest
  | token [] _ :: rest => tokens rest
  | token (c :: cs) isNumber :: rest => ⟨c :: cs, isNumber⟩ :: tokens rest

/-- Whether a statement ends behind so many tokens. -/
def endsAt : List Piece → Nat → Bool
  | [], _ => false
  | terminator :: rest, k => k == 0 || endsAt rest k
  | token [] _ :: rest, k => endsAt rest k
  | token (_ :: _) _ :: _, 0 => false
  | token (_ :: _) _ :: rest, k + 1 => endsAt rest k

/-- What separates a token from what has been written; `due` tells whether a statement has ended. -/
def gap (ending : Option Ending) (due : Bool) (text : List Char) : List Char :=
  if due && text != ['\x7d'] then [';']
  else if ending.any fun e => text.head?.any (joins e) then [' ']
  else []

/-- Writes tokens behind what has been written; `due` tells behind how many of them statements have ended. -/
def follow (ending : Option Ending) (due : Nat → Bool) : List Written → List Char
  | [] => []
  | w :: ws => gap ending (due 0) w.text ++ w.text ++ follow (some w.ending) (fun k => due (k + 1)) ws

theorem joins_semicolon (c : Char) : joins ⟨';', false⟩ c = false := by
  simp [joins, isWordChar]

/-- What is written depends on the tokens, and on where statements end. -/
theorem write_eq_follow : ∀ (pieces : List Piece) (ending : Option Ending) (due : Bool),
    write ending due pieces = follow ending (fun k => k == 0 && due || endsAt pieces k) (tokens pieces)
  | [], _, _ => rfl
  | terminator :: rest, ending, due => by
    have hdue : (fun k => k == 0 && true || endsAt rest k)
        = fun k => k == 0 && due || endsAt (terminator :: rest) k := by
      funext k
      rw [endsAt]
      cases k == 0 <;> simp
    rw [write, write_eq_follow rest, tokens, hdue]
  | token [] isNumber :: rest, ending, due => by
    rw [write, write_eq_follow rest, tokens]
    rfl
  | token (c :: cs) isNumber :: rest, ending, due => by
    have hrest : (fun k => k == 0 && false || endsAt rest k)
        = fun k => (k + 1 == 0 && due || endsAt (token (c :: cs) isNumber :: rest) (k + 1)) := by
      funext k
      simp [endsAt]
    have hgap : gap ending due (c :: cs) = (if due && c :: cs != ['\x7d'] then [';'] else [])
        ++ if (if due && c :: cs != ['\x7d'] then some ⟨';', false⟩ else ending).any (joins · c) then [' '] else [] := by
      rw [gap]
      cases due && c :: cs != ['\x7d'] with
      | true => simp [joins_semicolon]
      | false => rfl
    rw [write, write_eq_follow rest, tokens, follow, hrest, show (endsAt _ 0) = false from rfl]
    simp only [beq_self_eq_true, Bool.true_and, Bool.or_false, hgap, List.append_assoc]
    have hlast : (c :: cs).getLast (List.cons_ne_nil c cs) = (c :: cs).getLastD ' ' :=
      (List.getLastD_eq_getLast?.trans (by rw [List.getLast?_eq_getLast_of_ne_nil (List.cons_ne_nil c cs)]; rfl)).symm
    rw [Written.ending, hlast]

theorem text_ne_nil_of_mem_tokens {pieces : List Piece} {w : Written} (h : w ∈ tokens pieces) : w.text ≠ [] := by
  fun_induction tokens pieces with
  | case1 => cases h
  | case2 rest ih => exact ih h
  | case3 isNumber rest ih => exact ih h
  | case4 c cs isNumber rest ih =>
    rcases List.mem_cons.1 h with rfl | h
    · exact List.cons_ne_nil c cs
    · exact ih h

theorem tokens_append : ∀ ps qs : List Piece, tokens (ps ++ qs) = tokens ps ++ tokens qs
  | [], _ => rfl
  | terminator :: ps, qs => tokens_append ps qs
  | token [] _ :: ps, qs => tokens_append ps qs
  | token (_ :: _) _ :: ps, qs => by rw [List.cons_append, tokens, tokens, tokens_append ps qs, List.cons_append]

theorem endsAt_append : ∀ (ps qs : List Piece) (k : Nat),
    endsAt (ps ++ qs) k = (endsAt ps k || decide ((tokens ps).length ≤ k) && endsAt qs (k - (tokens ps).length))
  | [], qs, k => by simp [endsAt, tokens]
  | terminator :: ps, qs, k => by
    rw [List.cons_append, endsAt, endsAt, tokens, endsAt_append ps qs k, Bool.or_assoc]
  | token [] _ :: ps, qs, k => by rw [List.cons_append, endsAt, endsAt, tokens, endsAt_append ps qs k]
  | token (_ :: _) _ :: ps, qs, 0 => by simp [endsAt, tokens]
  | token (_ :: _) _ :: ps, qs, k + 1 => by
    rw [List.cons_append, endsAt, endsAt, tokens, endsAt_append ps qs k, List.length_cons]
    simp only [Nat.add_le_add_iff_right, Nat.add_sub_add_right]

end Piece

/-! ## The places of a tree -/

/-- A node where it stands. -/
structure Place where
  tree : Tree
  /-- What the node is part of. -/
  parent : Option Kind
  /-- The siblings that come after the node. -/
  later : List Tree
  /-- The number of tokens that are kept before the node. -/
  before : Nat

namespace Place

/-- A semicolon that ends a statement. -/
def isOmitted (p : Place) : Bool := p.tree.kind = .token .semicolon && p.parent.any (·.isTerminated)

/-- A token that is kept. -/
def isToken (p : Place) : Bool :=
  match p.tree with
  | .leaf _ _ => !p.isOmitted
  | .node info _ => info.kind.isVerbatim

/-- A token that is a number. -/
def isNumber (p : Place) : Bool := p.tree.kind = .number

/-- How a token is written: with its new name, as a negated digit, or as it stands. -/
def written (plan : Plan) (p : Place) : List Char :=
  if p.tree.kind = .identifier then (plan.lookup p.tree.start.byte).getD p.tree.text
  else if p.tree.kind = .trueLiteral ∧ p.parent.any (·.holdsValues) then ['!', '0']
  else if p.tree.kind = .falseLiteral ∧ p.parent.any (·.holdsValues) then ['!', '1']
  else p.tree.text

end Place

namespace Tree

mutual
/-- The number of tokens that are kept of a tree. -/
def keptCount (parent : Option Kind) : Tree → Nat
  | leaf info _ =>
    if info.kind.isComment || (info.kind = .token .semicolon && parent.any (·.isTerminated)) then 0 else 1
  | node info children =>
    if info.kind.isComment then 0 else if info.kind.isVerbatim then 1 else keptCountIn info.kind children

/-- The number of tokens that are kept of some siblings. -/
def keptCountIn (parent : Kind) : List Tree → Nat
  | [] => 0
  | t :: ts => t.keptCount (some parent) + keptCountIn parent ts
end

mutual
/-- The places of a tree in document order, without comments and without what is inside a verbatim node. -/
def places (parent : Option Kind) (later : List Tree) (before : Nat) : Tree → List Place
  | leaf info text => if info.kind.isComment then [] else [⟨leaf info text, parent, later, before⟩]
  | node info children =>
    if info.kind.isComment then []
    else ⟨node info children, parent, later, before⟩
      :: if info.kind.isVerbatim then [] else placesIn info.kind before children

/-- The places of siblings in document order. -/
def placesIn (parent : Kind) (before : Nat) : List Tree → List Place
  | [] => []
  | t :: ts => t.places (some parent) ts before ++ placesIn parent (before + t.keptCount (some parent)) ts
end

end Tree

/-- The next of some siblings is a semicolon, comments aside. -/
def Tree.SemicolonNext (later : List Tree) : Prop :=
  ∃ comments semicolon rest, later = comments ++ semicolon :: rest ∧ (∀ c ∈ comments, c.kind.isComment)
    ∧ semicolon.kind = .token .semicolon

theorem Tree.startsWithSemicolon_iff {ts : List Tree} : startsWithSemicolon ts ↔ SemicolonNext ts := by
  rw [startsWithSemicolon, Option.any_eq_true, SemicolonNext]
  constructor
  · rintro ⟨semicolon, hfind, hk⟩
    obtain ⟨-, comments, rest, rfl, hcomments⟩ := List.find?_eq_some_iff_append.1 hfind
    exact ⟨comments, semicolon, rest, rfl, fun c hc => by simpa using hcomments c hc, of_decide_eq_true hk⟩
  · rintro ⟨comments, semicolon, rest, rfl, hcomments, hk⟩
    have hsemicolon : semicolon.kind.isComment = false := by rw [hk]; rfl
    refine ⟨semicolon, List.find?_eq_some_iff_append.2 ⟨?_, comments, rest, rfl, fun c hc => ?_⟩, decide_eq_true hk⟩
    · rw [hsemicolon]
      rfl
    · rw [hcomments c hc]
      rfl

instance (ts : List Tree) : Decidable (Tree.SemicolonNext ts) := decidable_of_iff _ Tree.startsWithSemicolon_iff

/-- Whether a statement ends at a place when so many tokens have been kept: the place is a statement that no semicolon
follows, or the semicolon of one. -/
def Place.endsAfter (p : Place) (count : Nat) : Bool :=
  (p.tree.kind.isTerminated && !decide (Tree.SemicolonNext p.later) && p.before + p.tree.keptCount p.parent == count)
    || (p.isOmitted && p.before == count)

/-- The writer looks for the semicolon behind a statement in the siblings that are left. -/
theorem Place.endsAfter_eq (p : Place) (count : Nat) : p.endsAfter count =
    (p.tree.kind.isTerminated && !Tree.startsWithSemicolon p.later && p.before + p.tree.keptCount p.parent == count
      || p.isOmitted && p.before == count) := by
  rw [endsAfter, show decide (Tree.SemicolonNext p.later) = Tree.startsWithSemicolon p.later by
    rw [Bool.eq_iff_iff, decide_eq_true_eq, Tree.startsWithSemicolon_iff]]

namespace Tree

/-- The tokens of a tree that are kept, in document order. -/
def keptTokens (t : Tree) : List Place := (t.places none [] 0).filter (·.isToken)

/-- Whether a statement ends behind a token. -/
def endsBehind (t : Tree) (token : Place) : Bool := (t.places none [] 0).any (·.endsAfter (token.before + 1))

/-- What separates two tokens. -/
def separator (t : Tree) (plan : Plan) (token next : Place) : List Char :=
  if t.endsBehind token && next.written plan != ['\x7d'] then [';']
  else if Piece.joins ⟨(token.written plan).getLastD ' ', token.isNumber⟩ ((next.written plan).headD ' ') then [' ']
  else []

/-- Tokens behind another one, each behind what separates it from the one before it. -/
def layoutAfter (t : Tree) (plan : Plan) (token : Place) : List Place → List Char
  | [] => []
  | next :: rest => t.separator plan token next ++ next.written plan ++ t.layoutAfter plan next rest

/-- The tokens of a tree with what separates them. -/
def layout (t : Tree) (plan : Plan) : List Char :=
  match t.keptTokens with
  | [] => []
  | first :: rest => first.written plan ++ t.layoutAfter plan first rest

/-! ## Trees that have a layout -/

mutual
/-- The shape of trees that are read: leaves have text and are no statements, a semicolon is a leaf, no node but a
program is empty, and a statement has a token that is kept before the first semicolon of its own. -/
def isShaped : Tree → Bool
  | leaf info text => !text.isEmpty && !info.kind.isTerminated
  | node info children =>
    info.kind != .token .semicolon
      && (if info.kind.isVerbatim then !(textOf children).isEmpty
        else (!children.isEmpty || info.kind == .program)
          && (!info.kind.isTerminated
            || keptCountIn info.kind (children.takeWhile (·.kind != .token .semicolon)) != 0)
          && areShaped children)

/-- All trees of a list have the shape of trees that are read. -/
def areShaped : List Tree → Bool
  | [] => true
  | t :: ts => t.isShaped && areShaped ts
end

/-! ## The pieces of a tree and its places -/

variable {plan : Plan}

theorem written_eq (p : Place) : p.written plan = writtenText plan p.parent p.tree.info p.tree.text := by
  rw [Place.written, writtenText, show p.tree.kind = p.tree.info.kind from rfl]
  split
  next h =>
    rw [h]
    rfl
  next hidentifier =>
    split
    next h => simp [h]
    next htrue =>
      split
      next h => simp [h]
      next hfalse =>
        split
        next h => exact absurd h hidentifier
        next h => rw [if_neg fun hv => htrue ⟨h, hv⟩]
        next h => rw [if_neg fun hv => hfalse ⟨h, hv⟩]
        next => rfl

theorem written_ne_nil (hplan : ∀ e ∈ plan, e.2 ≠ []) {p : Place} (h : p.tree.text ≠ []) : p.written plan ≠ [] := by
  rw [Place.written]
  split
  · cases hnew : plan.lookup p.tree.start.byte with
    | none => exact h
    | some new => exact hplan _ (mem_of_lookup_eq_some hnew)
  · split
    · exact List.cons_ne_nil _ _
    · split
      · exact List.cons_ne_nil _ _
      · exact h

theorem isTerminated_of_isVerbatim {kind : Kind} (h : kind.isVerbatim) : kind.isTerminated = false := by
  unfold Kind.isVerbatim at h
  split at h <;> first | rfl | cases h

/-- No statement ends at a place before the tokens that are kept before it. -/
theorem endsAfter_of_lt {p : Place} {k : Nat} (h : k < p.before) : p.endsAfter k = false := by
  have hplace : p.before ≠ k := by omega
  have hbehind : p.before + p.tree.keptCount p.parent ≠ k := by omega
  simp [Place.endsAfter_eq, hplace, hbehind]

/-- Pieces that stand for some places: they have their tokens, numbered from `before` on, and tell where statements
end. -/
structure StandFor (plan : Plan) (pieces : List Piece) (places : List Place) (before count : Nat) : Prop where
  tokens : Piece.tokens pieces = (places.filter (·.isToken)).map fun p => ⟨p.written plan, p.isNumber⟩
  numbered : (places.filter (·.isToken)).map (·.before) = List.range' before count
  bounded : ∀ p ∈ places, before ≤ p.before
  ends : ∀ k, Piece.endsAt pieces k = places.any (·.endsAfter (before + k))

namespace StandFor

variable {before : Nat}

theorem nil : StandFor plan [] [] before 0 where
  tokens := rfl
  numbered := rfl
  bounded _ h := nomatch h
  ends _ := rfl

/-- A semicolon that ends a statement. -/
theorem omitted {p : Place} (ht : p.isToken = false) (ho : p.isOmitted) (hs : p.tree.kind.isTerminated = false) :
    StandFor plan [.terminator] [p] p.before 0 where
  tokens := by rw [List.filter_cons, ht]; rfl
  numbered := by rw [List.filter_cons, ht]; rfl
  bounded q hq := Nat.le_of_eq (congrArg Place.before (List.mem_singleton.1 hq)).symm
  ends k := by
    rw [List.any_cons, Place.endsAfter_eq, ho, hs]
    cases k <;> simp [Piece.endsAt]

/-- A token that is kept. -/
theorem token {p : Place} (hplan : ∀ e ∈ plan, e.2 ≠ []) (ht : p.isToken) (ho : p.isOmitted = false)
    (hs : p.tree.kind.isTerminated = false) (htext : p.tree.text ≠ []) :
    StandFor plan [tokenPiece plan p.parent p.tree.info p.tree.text] [p] p.before 1 := by
  have hpiece : tokenPiece plan p.parent p.tree.info p.tree.text = .token (p.written plan) p.isNumber := by
    rw [tokenPiece, written_eq]
    exact if_neg (Bool.eq_false_iff.1 ho)
  rw [hpiece]
  cases hw : p.written plan with
  | nil => exact absurd hw (written_ne_nil hplan htext)
  | cons c cs => exact {
      tokens := by rw [List.filter_cons, if_pos ht, List.filter_nil, List.map_singleton, hw]; rfl
      numbered := by rw [List.filter_cons, if_pos ht]; rfl
      bounded := fun q hq => Nat.le_of_eq (congrArg Place.before (List.mem_singleton.1 hq)).symm
      ends := fun k => by
        rw [List.any_cons, Place.endsAfter_eq, ho, hs]
        cases k <;> rfl }


theorem length_tokens {pieces : List Piece} {places : List Place} {count : Nat}
    (h : StandFor plan pieces places before count) : (Piece.tokens pieces).length = count := by
  rw [h.tokens, List.length_map, ← List.length_map (·.before), h.numbered, List.length_range']

theorem append {ps qs : List Piece} {xs ys : List Place} {m n : Nat} (hp : StandFor plan ps xs before m)
    (hq : StandFor plan qs ys (before + m) n) : StandFor plan (ps ++ qs) (xs ++ ys) before (m + n) where
  tokens := by rw [Piece.tokens_append, hp.tokens, hq.tokens, List.filter_append, List.map_append]
  numbered := by rw [List.filter_append, List.map_append, hp.numbered, hq.numbered, List.range'_append_1]
  bounded p hmem := (List.mem_append.1 hmem).elim (hp.bounded p)
    fun h => Nat.le_trans (Nat.le_add_right _ _) (hq.bounded p h)
  ends k := by
    rw [Piece.endsAt_append, hp.length_tokens, List.any_append, hp.ends]
    congr 1
    by_cases hk : m ≤ k
    · rw [hq.ends, show before + m + (k - m) = before + k by omega, decide_eq_true hk, Bool.true_and]
    · rw [decide_eq_false hk, Bool.false_and]
      exact (List.any_eq_false.2 fun p hmem => by
        rw [endsAfter_of_lt (Nat.lt_of_lt_of_le (by omega) (hq.bounded p hmem))]
        exact Bool.false_ne_true).symm

/-- A node before what it contains; unless a semicolon of its own ends it, a terminator is noted behind it. -/
theorem node {ps : List Piece} {p : Place} {xs : List Place} (ended : Bool) (ht : p.isToken = false)
    (ho : p.isOmitted = false) (h : StandFor plan ps xs p.before (p.tree.keptCount p.parent))
    (hended : p.tree.kind.isTerminated → ended → xs.any (·.endsAfter (p.before + p.tree.keptCount p.parent))) :
    StandFor plan
      (ps ++ if p.tree.kind.isTerminated && !ended && !startsWithSemicolon p.later then [.terminator] else [])
      (p :: xs) p.before (p.tree.keptCount p.parent) where
  tokens := by
    rw [Piece.tokens_append, h.tokens, List.filter_cons, if_neg (Bool.eq_false_iff.1 ht)]
    split <;> exact List.append_nil _
  numbered := by rw [List.filter_cons, if_neg (Bool.eq_false_iff.1 ht), h.numbered]
  bounded q hq := (List.mem_cons.1 hq).elim (fun h => h ▸ Nat.le_refl _) (h.bounded q)
  ends k := by
    rw [Piece.endsAt_append, h.length_tokens, h.ends, List.any_cons, Place.endsAfter_eq, ho, Bool.false_and, Bool.or_false]
    cases hs : p.tree.kind.isTerminated && !startsWithSemicolon p.later with
    | false =>
      rw [Bool.and_right_comm, hs, Bool.false_and, if_neg Bool.false_ne_true, Bool.false_and]
      simp [Piece.endsAt]
    | true =>
      rw [Bool.and_right_comm, hs, Bool.true_and, Bool.true_and]
      cases he : ended with
      | false =>
        simp only [Bool.not_false, if_pos, Piece.endsAt, Bool.or_false, Bool.or_comm _ (xs.any _)]
        congr 1
        by_cases hk : k = p.tree.keptCount p.parent
        · simp [hk]
        · have hsub : p.tree.keptCount p.parent ≤ k → (k - p.tree.keptCount p.parent == 0) = false := fun hle =>
            beq_false_of_ne (by omega)
          have hne : (p.before + p.tree.keptCount p.parent == p.before + k) = false := beq_false_of_ne (by omega)
          by_cases hle : p.tree.keptCount p.parent ≤ k <;> simp [hle, hne, hsub]
      | true =>
        rw [Bool.and_eq_true] at hs
        by_cases hk : k = p.tree.keptCount p.parent
        · rw [hk, hended hs.1 he, Bool.or_true, Bool.true_or]
        · rw [beq_false_of_ne (by omega)]
          simp [Piece.endsAt]

end StandFor

theorem keptCountIn_of_comments {parent : Kind} : ∀ {ts : List Tree}, (∀ t ∈ ts, t.kind.isComment) →
    keptCountIn parent ts = 0
  | [], _ => rfl
  | t :: ts, h => by
    have ht : t.info.kind.isComment := h t List.mem_cons_self
    rw [keptCountIn, keptCountIn_of_comments fun u hu => h u (List.mem_cons_of_mem t hu)]
    cases t with
    | leaf info text =>
      rw [keptCount, if_pos]
      rw [show info.kind.isComment from ht, Bool.true_or]
    | node info children => rw [keptCount, if_pos (show info.kind.isComment from ht)]

/-- The last semicolon of a statement ends it, apart from comments behind it. -/
theorem any_endsAfter_of_endsWithSemicolon {parent : Kind} (hp : parent.isTerminated) :
    ∀ {ts : List Tree} {before : Nat}, areShaped ts → endsWithSemicolon ts →
      (placesIn parent before ts).any (·.endsAfter (before + keptCountIn parent ts))
  | [], before, _, h => by cases h
  | t :: ts, before, hs, h => by
    rw [areShaped, Bool.and_eq_true] at hs
    rw [placesIn, keptCountIn, List.any_append, Bool.or_eq_true, ← Nat.add_assoc]
    rw [endsWithSemicolon, startsWithSemicolon, List.reverse_cons, List.find?_append] at h
    cases hf : ts.reverse.find? (fun t => !t.kind.isComment) with
    | some u =>
      rw [hf] at h
      refine .inr (any_endsAfter_of_endsWithSemicolon hp hs.2 ?_)
      rwa [endsWithSemicolon, startsWithSemicolon, hf]
    | none =>
      have hcomments : ∀ u ∈ ts, u.kind.isComment := fun u hu => by
        simpa using List.find?_eq_none.1 hf u (List.mem_reverse.2 hu)
      rw [hf, Option.none_or, List.find?_singleton] at h
      rw [keptCountIn_of_comments hcomments]
      cases hc : t.kind.isComment with
      | true =>
        rw [hc] at h
        cases h
      | false =>
        rw [hc] at h
        have hk : t.kind = .token .semicolon := by simpa using h
        cases t with
        | leaf info text =>
          have hk : info.kind = .token .semicolon := hk
          left
          rw [places, keptCount, if_neg (by rw [hk]; decide), if_pos (by rw [hk]; simp [hp]), List.any_cons,
            Place.endsAfter_eq, Place.isOmitted, show (leaf info text).kind = info.kind from rfl, hk]
          simp [hp]
        | node info children =>
          rw [isShaped, Bool.and_eq_true, bne_iff_ne] at hs
          exact absurd hk hs.1.1

mutual
/-- The pieces of a tree stand for its places. -/
theorem standFor_pieces (hplan : ∀ e ∈ plan, e.2 ≠ []) : ∀ (t : Tree) (parent : Option Kind) (later : List Tree)
    (before : Nat), t.isShaped → StandFor plan (t.pieces plan parent (startsWithSemicolon later))
      (t.places parent later before) before (t.keptCount parent)
  | leaf info text, parent, later, before, h => by
    rw [isShaped, Bool.and_eq_true, Bool.not_eq_true', Bool.not_eq_true'] at h
    rw [pieces, places, keptCount]
    cases hc : info.kind.isComment with
    | true => exact .nil
    | false =>
      rw [Bool.false_or]
      cases ho : decide (info.kind = .token .semicolon) && parent.any (·.isTerminated) with
      | true =>
        rw [tokenPiece, if_pos ho]
        exact .omitted (p := ⟨leaf info text, parent, later, before⟩) (congrArg Bool.not ho) ho h.2
      | false =>
        exact .token (p := ⟨leaf info text, parent, later, before⟩) hplan (congrArg Bool.not ho) ho h.2
          (List.isEmpty_eq_false_iff.1 h.1)
  | node info children, parent, later, before, h => by
    rw [isShaped, Bool.and_eq_true, bne_iff_ne] at h
    obtain ⟨hsemicolon, h⟩ := h
    rw [pieces, places, keptCount]
    have ho : (⟨node info children, parent, later, before⟩ : Place).isOmitted = false := by
      rw [Place.isOmitted, show (node info children).kind = info.kind from rfl, decide_eq_false hsemicolon,
        Bool.false_and]
    cases hc : info.kind.isComment with
    | true => exact .nil
    | false =>
      cases hv : info.kind.isVerbatim with
      | true =>
        rw [hv, if_pos rfl, Bool.not_eq_true'] at h
        rw [Bool.or_true]
        exact .token (p := ⟨node info children, parent, later, before⟩) hplan hv ho (isTerminated_of_isVerbatim hv)
          (List.isEmpty_eq_false_iff.1 h)
      | false =>
        rw [hv, if_neg Bool.false_ne_true, Bool.and_eq_true, Bool.and_eq_true] at h
        have hbelow := standFor_piecesIn hplan children info.kind before h.2
        have hcount : (node info children).keptCount parent = keptCountIn info.kind children := by
          rw [keptCount, hc, hv]
          rfl
        have hnode := StandFor.node (p := ⟨node info children, parent, later, before⟩) (endsWithSemicolon children) hv ho
          (hcount ▸ hbelow) fun hp he => hcount ▸ any_endsAfter_of_endsWithSemicolon hp h.2 he
        rw [hcount] at hnode
        cases children with
        | nil =>
          have hprogram : info.kind = .program := by simpa using h.1.1
          have hpiece : tokenPiece plan parent info (node info []).text = .token [] false := by
            rw [tokenPiece, writtenText, hprogram]
            rfl
          rw [hpiece]
          obtain ⟨kind, field, start, gap, missing, faulty⟩ := info
          cases hprogram
          exact ⟨hnode.tokens, hnode.numbered, hnode.bounded, hnode.ends⟩
        | cons c cs => exact hnode

theorem standFor_piecesIn (hplan : ∀ e ∈ plan, e.2 ≠ []) : ∀ (ts : List Tree) (parent : Kind) (before : Nat),
    areShaped ts → StandFor plan (piecesIn plan parent ts) (placesIn parent before ts) before (keptCountIn parent ts)
  | [], _, _, _ => .nil
  | t :: ts, parent, before, h => by
    rw [areShaped, Bool.and_eq_true] at h
    exact (standFor_pieces hplan t (some parent) ts before h.1).append (standFor_piecesIn hplan ts parent _ h.2)
end

theorem keptCountIn_takeWhile_le (parent : Kind) (q : Tree → Bool) (ts : List Tree) :
    keptCountIn parent (ts.takeWhile q) ≤ keptCountIn parent ts := by
  induction ts with
  | nil => exact Nat.le_refl _
  | cons t ts ih =>
    rw [List.takeWhile_cons]
    split
    · exact Nat.add_le_add_left ih _
    · exact Nat.zero_le _

mutual
/-- No statement ends in a tree before its first token, unless the tree is the semicolon of one. -/
theorem endsAfter_before : ∀ (t : Tree) (parent : Option Kind) (later : List Tree) (before : Nat), t.isShaped →
    (⟨t, parent, later, before⟩ : Place).isOmitted = false →
    ∀ p ∈ t.places parent later before, p.endsAfter before = false
  | leaf info text, parent, later, before, h, ho, p, hp => by
    rw [isShaped, Bool.and_eq_true, Bool.not_eq_true', Bool.not_eq_true'] at h
    rw [places] at hp
    split at hp
    · cases hp
    · rw [List.mem_singleton.1 hp, Place.endsAfter_eq, ho, show (leaf info text).kind = info.kind from rfl, h.2]
      rfl
  | node info children, parent, later, before, h, ho, p, hp => by
    rw [isShaped, Bool.and_eq_true] at h
    rw [places] at hp
    split at hp
    · cases hp
    next hc =>
      have hcount : (node info children).keptCount parent
          = if info.kind.isVerbatim then 1 else keptCountIn info.kind children := by
        rw [keptCount, if_neg hc]
      rcases List.mem_cons.1 hp with rfl | hp
      · rw [Place.endsAfter_eq, ho, show (node info children).kind = info.kind from rfl, hcount]
        cases hs : info.kind.isTerminated with
        | false => rfl
        | true =>
          have hv : info.kind.isVerbatim = false :=
            Bool.eq_false_iff.2 fun hv => by simp [isTerminated_of_isVerbatim hv] at hs
          rw [hv, if_neg Bool.false_ne_true, hs] at h
          simp only [Bool.and_eq_true, Bool.not_true, Bool.false_or, bne_iff_ne] at h
          have hle := keptCountIn_takeWhile_le info.kind (·.kind != .token .semicolon) children
          have hcount : keptCountIn info.kind children ≠ 0 := by omega
          simp [hv, hcount]
      · split at hp
        · cases hp
        next hv =>
          rw [if_neg hv] at h
          simp only [Bool.and_eq_true, Bool.or_eq_true, Bool.not_eq_true', bne_iff_ne] at h
          exact endsAfter_beforeIn children info.kind before h.2.2
            (fun hs => h.2.1.2.resolve_left (by simp [hs])) p hp

theorem endsAfter_beforeIn : ∀ (ts : List Tree) (parent : Kind) (before : Nat), areShaped ts →
    (parent.isTerminated → keptCountIn parent (ts.takeWhile (·.kind != .token .semicolon)) ≠ 0) →
    ∀ p ∈ placesIn parent before ts, p.endsAfter before = false
  | [], _, _, _, _, _, hp => nomatch hp
  | t :: ts, parent, before, h, hfirst, p, hp => by
    rw [areShaped, Bool.and_eq_true] at h
    rw [placesIn] at hp
    have ho : (⟨t, some parent, ts, before⟩ : Place).isOmitted = false := by
      rw [Place.isOmitted, Bool.and_eq_false_iff, decide_eq_false_iff_not]
      by_cases hk : t.kind = .token .semicolon
      · refine .inr (Bool.eq_false_iff.2 fun hs => hfirst hs ?_)
        rw [List.takeWhile_cons_of_neg (by simp [hk])]
        rfl
      · exact .inl hk
    rcases List.mem_append.1 hp with hp | hp
    · exact endsAfter_before t (some parent) ts before h.1 ho p hp
    · have hstand : StandFor [] _ _ (before + t.keptCount (some parent)) _ :=
        standFor_piecesIn (fun _ he => absurd he List.not_mem_nil) ts parent _ h.2
      have hle := hstand.bounded p hp
      by_cases hcount : t.keptCount (some parent) = 0
      · rw [hcount, Nat.add_zero] at hp
        refine endsAfter_beforeIn ts parent before h.2 (fun hs hzero => hfirst hs ?_) p hp
        rw [List.takeWhile_cons]
        split
        · rw [keptCountIn, hcount, hzero]
        · rfl
      · exact endsAfter_of_lt (by omega)
end

/-! ## What is written -/

section Layout

variable {t : Tree}

/-- Tokens behind another one are written with what separates them. -/
theorem follow_eq_layoutAfter : ∀ {ps : List Place} {p : Place}, (∀ q ∈ ps, q.written plan ≠ []) →
    ps.map (·.before) = List.range' (p.before + 1) ps.length →
    Piece.follow (some (Piece.Written.ending ⟨p.written plan, p.isNumber⟩))
      (fun k => (t.places none [] 0).any (·.endsAfter (p.before + 1 + k)))
      (ps.map fun q => ⟨q.written plan, q.isNumber⟩) = t.layoutAfter plan p ps
  | [], _, _, _ => rfl
  | q :: qs, p, hwritten, hnumbered => by
    rw [List.map_cons, List.length_cons, List.range'_succ, List.cons.injEq] at hnumbered
    have hgap : Piece.gap (some (Piece.Written.ending ⟨p.written plan, p.isNumber⟩))
        ((t.places none [] 0).any (·.endsAfter (p.before + 1 + 0))) (q.written plan) = t.separator plan p q := by
      rw [Piece.gap, separator, endsBehind, Nat.add_zero, Piece.Written.ending, Option.any_some]
      cases hw : q.written plan with
      | nil => exact absurd hw (hwritten q List.mem_cons_self)
      | cons c cs => rfl
    have hrest : _ = t.layoutAfter plan q qs := follow_eq_layoutAfter
      (fun r hr => hwritten r (List.mem_cons_of_mem q hr)) (hnumbered.1 ▸ hnumbered.2)
    rw [List.map_cons, Piece.follow, layoutAfter, hgap, ← hrest, hnumbered.1]
    simp only [Nat.add_comm, Nat.add_left_comm]

/-- A tree is written as its tokens, each behind what separates it from the one before it. -/
theorem emit_eq_layout (h : t.isShaped) (hplan : ∀ e ∈ plan, e.2 ≠ []) : t.emit plan = t.layout plan := by
  have hstand := standFor_pieces hplan t none [] 0 h
  have hstart : (t.places none [] 0).any (·.endsAfter 0) = false :=
    List.any_eq_false.2 fun p hp =>
      have hkept : Place.isOmitted ⟨t, none, [], 0⟩ = false := by rw [Place.isOmitted, Option.any_none, Bool.and_false]
      Bool.eq_false_iff.1 (endsAfter_before t none [] 0 h hkept p hp)
  have hwritten : ∀ q ∈ t.keptTokens, q.written plan ≠ [] := fun q hq =>
    Piece.text_ne_nil_of_mem_tokens (hstand.tokens ▸ List.mem_map_of_mem hq)
  have hnumbered : t.keptTokens.map (·.before) = List.range' 0 (t.keptCount none) := hstand.numbered
  have hends : (fun k => k == 0 && false || Piece.endsAt (t.pieces plan none false) k)
      = fun k => (t.places none [] 0).any (·.endsAfter k) := by
    funext k
    rw [Bool.and_false, Bool.false_or, show false = startsWithSemicolon [] from rfl, hstand.ends, Nat.zero_add]
  rw [emit, layout, Piece.write_eq_follow, hends, show false = startsWithSemicolon [] from rfl, hstand.tokens]
  change Piece.follow _ _ (t.keptTokens.map _) = _
  cases htokens : t.keptTokens with
  | nil => rfl
  | cons first rest =>
    rw [htokens] at hnumbered hwritten
    have hlength := congrArg List.length hnumbered
    rw [List.length_map, List.length_range', List.length_cons] at hlength
    rw [← hlength, List.map_cons, List.range'_succ, List.cons.injEq] at hnumbered
    rw [List.map_cons, Piece.follow, hstart, Piece.gap, Bool.false_and, if_neg Bool.false_ne_true, Option.any_none,
      if_neg Bool.false_ne_true, List.nil_append]
    have hfollow : _ = t.layoutAfter plan first rest := follow_eq_layoutAfter
      (fun q hq => hwritten q (List.mem_cons_of_mem first hq)) (hnumbered.1 ▸ hnumbered.2)
    rw [hnumbered.1] at hfollow
    simp only [Nat.zero_add, Nat.add_comm 1] at hfollow
    exact congrArg (first.written plan ++ ·) hfollow

theorem emit_eq_layout_statements : ∃ t,
    check "function add(first) \x7b // sum\nvar flag = true\nreturn first + +flag;\n\x7d\nadd('a  b')\n;".toList = .ok t
      ∧ t.isShaped ∧ (∀ e ∈ t.plan, e.2 ≠ []) ∧ t.emit t.plan = t.layout t.plan := by
  have h : (check "function add(first) \x7b // sum\nvar flag = true\nreturn first + +flag;\n\x7d\nadd('a  b')\n;".toList
      ).toOption.any (fun t => t.isShaped && t.plan.all fun e => !e.2.isEmpty) = true := by decide +kernel
  obtain ⟨t, ht, hall⟩ := exists_of_any_check h
  simp only [Bool.and_eq_true, List.all_eq_true, Bool.not_eq_true', List.isEmpty_eq_false_iff] at hall
  exact ⟨t, ht, hall.1, hall.2, emit_eq_layout hall.1 hall.2⟩

end Layout

end Tree

namespace Piece

/-- The slash at the end of a regular expression is no word, so a word right behind it is read as its flags. -/
theorem not_forall_check_minify :
    ¬ ∀ source output, minify source = .ok output → (check output).toOption.isSome := by
  intro h
  have hfused : (minify "/a/ in b".toList).toOption.any (fun output => (check output).toOption.isNone) = true := by
    decide +kernel
  cases hm : minify "/a/ in b".toList with
  | error e =>
    rw [hm] at hfused
    cases hfused
  | ok output =>
    rw [hm] at hfused
    have hnone : (check output).toOption = none := by simpa [Except.toOption] using hfused
    have hsome := h _ output hm
    rw [hnone] at hsome
    cases hsome

end Piece
end Bookmarklet.Script
