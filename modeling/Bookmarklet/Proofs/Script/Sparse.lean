import Bookmarklet.Proofs.Script.Layout
import Bookmarklet.Script.Minify.Emit

/-!
# Scripts of semicolons and comments

A script may have no tokens but semicolons and comments. Each semicolon in it is an empty statement: there are few
states in which the parser can be on the way (`Grammar.sparseStates`), and what it builds there is never a statement
that a semicolon only ends (`sparse_of_check`).
-/

namespace Bookmarklet.Script

/-! ## Tokens of a tree -/

/-- Kinds of comments, and that of semicolons. -/
def Kind.isFiller (k : Kind) : Bool := k.isComment || k = .token .semicolon

/-- Kinds of nodes that are written as their children are, each semicolon among them. -/
def Kind.isPlain (k : Kind) : Bool :=
  !(k.isFiller || k.isTerminated || k.isVerbatim || k.isFunction || k = .trueLiteral || k = .falseLiteral)

theorem Kind.isPlain_iff {k : Kind} : k.isPlain ↔ k.isFiller = false ∧ k.isTerminated = false ∧ k.isVerbatim = false
    ∧ k.isFunction = false ∧ k ≠ .trueLiteral ∧ k ≠ .falseLiteral := by
  simp [isPlain, and_assoc]

namespace Tree

mutual
/-- Whether a tree has a token outside comments whose kind passes a test. -/
def anyToken (test : Kind → Bool) : Tree → Bool
  | leaf info _ => !info.kind.isComment && test info.kind
  | node info children => !info.kind.isComment && anyTokenIn test children

/-- Whether one of some trees has a token outside comments whose kind passes a test. -/
def anyTokenIn (test : Kind → Bool) : List Tree → Bool
  | [] => false
  | t :: ts => t.anyToken test || anyTokenIn test ts
end

/-- Whether a tree has a token that is not a comment. -/
def hasTokens (t : Tree) : Bool := t.anyToken fun _ => true

/-- Whether a tree has a token that is neither a comment nor a semicolon. -/
def hasWords (t : Tree) : Bool := t.anyToken (· ≠ .token .semicolon)

mutual
/-- All leaves of a tree are comments and semicolons, and no node is written in a special way. -/
def Sparse : Tree → Prop
  | leaf info _ => info.kind.isFiller
  | node info children => info.kind.isPlain ∧ SparseIn children

/-- Trees of comments and semicolons. -/
def SparseIn : List Tree → Prop
  | [] => True
  | t :: ts => t.Sparse ∧ SparseIn ts
end

/-- A tree without faults that has no token but comments and semicolons. -/
def Quiet (t : Tree) : Prop := t.info.faulty = false ∧ t.hasWords = false

theorem anyTokenIn_eq_any (test : Kind → Bool) (ts : List Tree) : anyTokenIn test ts = ts.any (·.anyToken test) := by
  induction ts with
  | nil => rfl
  | cons t ts ih => rw [anyTokenIn, ih, List.any_cons]

mutual
theorem anyToken_mono {test test' : Kind → Bool} (h : ∀ k, test k → test' k) :
    ∀ {t : Tree}, t.anyToken test → t.anyToken test'
  | leaf info text, ht => by
    rw [anyToken, Bool.and_eq_true] at ht ⊢
    exact ht.imp_right (h _)
  | node info children, ht => by
    rw [anyToken, Bool.and_eq_true] at ht ⊢
    exact ht.imp_right (anyTokenIn_mono h)

theorem anyTokenIn_mono {test test' : Kind → Bool} (h : ∀ k, test k → test' k) :
    ∀ {ts : List Tree}, anyTokenIn test ts → anyTokenIn test' ts
  | t :: ts, ht => by
    rw [anyTokenIn, Bool.or_eq_true] at ht ⊢
    exact ht.imp (anyToken_mono h) (anyTokenIn_mono h)
end

theorem hasTokens_of_hasWords {t : Tree} (h : t.hasWords) : t.hasTokens := anyToken_mono (fun _ _ => rfl) h

theorem sparseIn_iff {ts : List Tree} : SparseIn ts ↔ ∀ t ∈ ts, t.Sparse := by
  induction ts with
  | nil => simp [SparseIn]
  | cons t ts ih => simp [SparseIn, ih]

theorem Quiet.isFiller {info : Info} {text : List Char} (h : (leaf info text).Quiet) : info.kind.isFiller := by
  have hwords := h.2
  rw [hasWords, anyToken] at hwords
  rw [Kind.isFiller]
  cases hc : info.kind.isComment with
  | true => rfl
  | false => simpa [hc] using hwords

theorem Quiet.children {info : Info} {children : List Tree} (h : (node info children).Quiet)
    (hf : children.any (·.info.faulty) → info.faulty) (hc : info.kind.isComment = false) : ∀ t ∈ children, t.Quiet := by
  obtain ⟨hfaulty, hwords⟩ := h
  rw [hasWords, anyToken, hc, anyTokenIn_eq_any] at hwords
  exact fun t ht => ⟨clean_of_mem hf hfaulty t ht, Bool.eq_false_iff.2 (List.any_eq_false.1 hwords t ht)⟩

end Tree

/-! ## States on the way -/

namespace Grammar

/-- The states in which the parser can be while it has read semicolons and comments only. -/
def sparseStates : List Nat := [startState, 7, 12, 13, 14, 334, 358, 1502]

/-- What is made of semicolons and comments. -/
def sparseConstructs : List Nonterminal := [.program, .programRepeat, .statement, .emptyStatement]

/-- A token is a comment or a semicolon, or does not show. -/
def isQuietTerminal (t : Terminal) : Bool := t.kind?.all (·.isFiller)

/-- Whether a way leads nowhere or to a sparse state. -/
def staysSparse (state : Nat) : Bool := state = errorState || sparseStates.contains state

/-- Whether comments and semicolons lead from a state to sparse states, and so do sparse constructs, of which all are
that the state may reduce. -/
def isClosed (state : Nat) : Bool :=
  ((Terminal.all.filter isQuietTerminal).all fun t =>
      staysSparse (targetOn state t) && (moves state t).all fun | .shift b => staysSparse b | _ => true)
    && (sparseConstructs.all fun n => staysSparse (targetOf state n))
    && (rowMoves state).all fun | .reduce r => sparseConstructs.contains r.result | _ => true

theorem mem_sparseStates {state : Nat} (h : staysSparse state) (hne : state ≠ errorState) : state ∈ sparseStates := by
  simpa [staysSparse, hne] using h

section Closed

variable {a : Nat} (ha : a ∈ sparseStates)
include ha

theorem isClosed_of_mem : isClosed a := by
  have hall : sparseStates.all isClosed = true := by decide +kernel
  exact List.all_eq_true.1 hall a ha

theorem staysSparse_of_token {t : Terminal} (ht : isQuietTerminal t) :
    staysSparse (targetOn a t) ∧ ∀ b, .shift b ∈ moves a t → staysSparse b := by
  have hclosed := isClosed_of_mem ha
  rw [isClosed, Bool.and_eq_true, Bool.and_eq_true] at hclosed
  have htoken := List.all_eq_true.1 hclosed.1.1 t (List.mem_filter.2 ⟨t.mem_all, ht⟩)
  rw [Bool.and_eq_true] at htoken
  exact ⟨htoken.1, fun b hb => List.all_eq_true.1 htoken.2 (.shift b) hb⟩

theorem staysSparse_targetOf {n : Nonterminal} (hn : n ∈ sparseConstructs) : staysSparse (targetOf a n) := by
  have hclosed := isClosed_of_mem ha
  rw [isClosed, Bool.and_eq_true, Bool.and_eq_true] at hclosed
  exact List.all_eq_true.1 hclosed.1.2 n hn

theorem mem_sparseConstructs_of_reduces {r : Reduction} (h : Reduces a r) : r.result ∈ sparseConstructs := by
  have hclosed := isClosed_of_mem ha
  rw [isClosed, Bool.and_eq_true] at hclosed
  exact List.contains_iff_mem.1 (List.all_eq_true.1 hclosed.2 (.reduce r) h.mem_rowMoves)

end Closed

/-- Whether a reduction shows parts under the kinds of names only. -/
def Action.hasPlainAliases : Action → Bool
  | .reduce r => r.shape.aliases.all (·.2.isPlain)
  | _ => true

theorem isPlain_alias {a : Nat} {r : Reduction} {position : Nat} {k : Kind} (h : Reduces a r)
    (hk : r.shape.alias? position = some k) : k.isPlain := by
  obtain ⟨code, hcode⟩ := exists_mem_decodeMoves h.mem_rowMoves
  have hall : Action.hasPlainAliases (.reduce r) :=
    all_decodeMoves (fun _ => rfl) (by decide +kernel) (by decide +kernel) (by decide +kernel) code _ hcode
  obtain ⟨_, _, heq, -⟩ := List.lookup_eq_some_iff.1 hk
  exact List.all_eq_true.1 hall (position, k) (by rw [heq]; simp)

theorem Nonterminal.isComment_kind? {n : Nonterminal} {k : Kind} (h : n.kind? = some k) : k.isComment = false := by
  cases n <;> cases h <;> rfl

theorem Nonterminal.isPlain_kind? {n : Nonterminal} {k : Kind} (hn : n ∈ sparseConstructs) (h : n.kind? = some k) :
    k.isPlain := by
  have hall : (sparseConstructs.all fun n => n.kind?.all (·.isPlain)) = true := by decide
  have hk := List.all_eq_true.1 hall n hn
  rwa [h] at hk

end Grammar

/-! ## What the parser builds on the way -/

open Grammar (errorState startState sparseStates sparseConstructs)

/-- A way through the parse table that shows some trees: as long as these have no tokens but comments and semicolons,
they are sparse, and if all of them are, the way ends in a sparse state where it began in one. -/
def Shows (trees : List Tree) (a b : Nat) : Prop :=
  a ∈ sparseStates → b ≠ errorState → ∀ front back, trees = front ++ back → (∀ t ∈ front, t.Quiet) →
    (∀ t ∈ front, t.Sparse) ∧ (back = [] → b ∈ sparseStates)

namespace Shows

variable {trees more : List Tree} {t : Tree} {a b m : Nat}

theorem nil (h : a ∈ sparseStates → b ≠ errorState → b ∈ sparseStates) : Shows [] a b := by
  intro ha hb front back heq _
  obtain ⟨rfl, rfl⟩ := List.append_eq_nil_iff.1 heq.symm
  exact ⟨nofun, fun _ => h ha hb⟩

theorem singleton (h : t.Quiet → a ∈ sparseStates → b ≠ errorState → t.Sparse ∧ b ∈ sparseStates) :
    Shows [t] a b := by
  intro ha hb front back heq hquiet
  cases front with
  | nil =>
    refine ⟨nofun, fun hback => ?_⟩
    rw [hback] at heq
    cases heq
  | cons u front =>
    rw [List.cons_append, List.cons.injEq] at heq
    obtain ⟨rfl, hnil⟩ := heq
    obtain ⟨rfl, rfl⟩ := List.append_eq_nil_iff.1 hnil.symm
    obtain ⟨hsparse, hstate⟩ := h (hquiet t List.mem_cons_self) ha hb
    refine ⟨fun u hu => ?_, fun _ => hstate⟩
    cases List.mem_singleton.1 hu
    exact hsparse

theorem append (h : Shows trees a m) (h' : Shows more m b) (hm : m = errorState → b = errorState) :
    Shows (trees ++ more) a b := by
  intro ha hb front back heq hquiet
  have hm' : m ≠ errorState := fun he => hb (hm he)
  rcases List.append_eq_append_iff.1 heq with ⟨rest, rfl, rfl⟩ | ⟨rest, rfl, rfl⟩
  · obtain ⟨hsparse, hstate⟩ := h ha hm' trees [] (List.append_nil _).symm
      fun t ht => hquiet t (List.mem_append_left _ ht)
    obtain ⟨hsparse', hstate'⟩ := h' (hstate rfl) hb rest back rfl fun t ht => hquiet t (List.mem_append_right _ ht)
    exact ⟨fun t ht => (List.mem_append.1 ht).elim (hsparse t) (hsparse' t), hstate'⟩
  · obtain ⟨hsparse, hstate⟩ := h ha hm' front rest rfl hquiet
    refine ⟨hsparse, fun hback => ?_⟩
    obtain ⟨hrest, rfl⟩ := List.append_eq_nil_iff.1 hback
    exact (h' (hstate hrest) hb [] [] rfl nofun).2 rfl

theorem trans (h : Shows trees a m) (hm : m ≠ errorState)
    (hb : a ∈ sparseStates → m ∈ sparseStates → b ≠ errorState → b ∈ sparseStates) : Shows trees a b := by
  intro ha hne front back heq hquiet
  obtain ⟨hsparse, hstate⟩ := h ha hm front back heq hquiet
  exact ⟨hsparse, fun hback => hb ha (hstate hback) hne⟩

end Shows

namespace Subtree

/-- A token that shows as a comment or a semicolon, or not at all. -/
theorem isQuietTerminal_of_leaf {l : Leaf} {t : Terminal} (hfair : l.isFair) (hsymbol : l.symbol = .terminal t)
    (hk : ∀ k ∈ l.kind?, k.isFiller) : Grammar.isQuietTerminal t := by
  rw [Grammar.isQuietTerminal, Option.all_eq_true]
  cases l with
  | mark t' =>
    cases hsymbol
    intro k h
    rw [Leaf.isFair, h] at hfair
    cases hfair
  | stray text => cases hsymbol
  | _ =>
    cases hsymbol
    exact hk

theorem shows_leaf {l : Leaf} {span : Span} {extra : Bool} {a b : Nat} {alias? : Option Kind}
    (halias : ∀ k ∈ alias?, k.isPlain) (field : Option Field) (h : (leaf l span extra).Follows a b) :
    Shows ((leaf l span extra).nodes alias? field) a b := by
  have hstate (hk : ∀ k ∈ l.kind?, k.isFiller) (ha : a ∈ sparseStates) (hb : b ≠ errorState) : b ∈ sparseStates := by
    rw [Follows] at h
    split at h
    · exact h.1 ▸ ha
    · obtain ⟨hfair, t, hsymbol, hmove⟩ := h
      have ht := isQuietTerminal_of_leaf hfair hsymbol hk
      rcases hmove with hshift | ⟨-, rfl, -, -⟩
      · exact Grammar.mem_sparseStates ((Grammar.staysSparse_of_token ha ht).2 _ hshift) hb
      · exact Grammar.mem_sparseStates (Grammar.staysSparse_of_token ha ht).1 hb
  rw [nodes]
  cases hkind : l.kind? with
  | none =>
    simp only [Option.isSome_none, Bool.false_eq_true, if_false]
    exact .nil (hstate (by simp [hkind]))
  | some k =>
    simp only [Option.isSome_some, if_true]
    cases alias? with
    | none =>
      refine .singleton fun hquiet ha hb => ⟨hquiet.isFiller, hstate (fun k' hk' => ?_) ha hb⟩
      rw [hkind] at hk'
      cases hk'
      exact hquiet.isFiller
    | some name =>
      refine .singleton fun hquiet _ _ => ?_
      exact absurd hquiet.isFiller (by simp [(Kind.isPlain_iff.1 (halias name rfl)).1])

/-- A construct shows its parts, or a node around them. -/
theorem shows_construct {r : Grammar.Reduction} {children : List Subtree} {span : Span} {extra : Bool} {weight : Weight}
    {a top : Nat} {alias? : Option Kind} (halias : ∀ k ∈ alias?, k.isPlain) (field : Option Field)
    (hreduces : Grammar.Reduces top r)
    (hshows : ∀ inherited, Shows (nodesOf r.shape inherited 0 children) a top) :
    Shows ((branch (.construct r.result) r.shape children span extra weight).nodes alias? field) a
      (Grammar.targetOf a r.result) := by
  have htop : top ≠ errorState := hreduces.ne_errorState
  have hstate (ha : a ∈ sparseStates) (hm : top ∈ sparseStates) (hb : Grammar.targetOf a r.result ≠ errorState) :
      Grammar.targetOf a r.result ∈ sparseStates :=
    Grammar.mem_sparseStates
      (Grammar.staysSparse_targetOf ha (Grammar.mem_sparseConstructs_of_reduces hm hreduces)) hb
  rw [nodes]
  cases hkind : alias?.or (Symbol.construct r.result).kind? with
  | none => exact (hshows field).trans htop hstate
  | some kind =>
    refine .singleton fun hquiet ha hb => ?_
    have hname : alias? = some kind ∨ r.result.kind? = some kind := by
      cases alias? with
      | none => exact .inr hkind
      | some name => exact .inl hkind
    have hcomment : kind.isComment = false := by
      rcases hname with hname | hname
      · have hfiller := (Kind.isPlain_iff.1 (halias kind hname)).1
        exact (Bool.or_eq_false_iff.1 hfiller).1
      · exact Grammar.Nonterminal.isComment_kind? hname
    obtain ⟨hsparse, hm⟩ := hshows none ha htop _ [] (List.append_nil _).symm
      (hquiet.children (fun hf => by rw [hf, Bool.or_true]) hcomment)
    refine ⟨⟨?_, Tree.sparseIn_iff.2 hsparse⟩, hstate ha (hm rfl) hb⟩
    rcases hname with hname | hname
    · exact halias kind hname
    · exact Grammar.Nonterminal.isPlain_kind? (Grammar.mem_sparseConstructs_of_reduces (hm rfl) hreduces) hname

/-- An error shows a faulty node. -/
theorem shows_error {shape : Grammar.Shape} {children : List Subtree} {span : Span} {extra : Bool} {weight : Weight}
    (hcost : 0 < weight.cost) (alias? : Option Kind) (field : Option Field) (a b : Nat) :
    Shows ((branch .error shape children span extra weight).nodes alias? field) a b := by
  obtain ⟨kind, hkind⟩ : ∃ kind, alias?.or Symbol.error.kind? = some kind := by cases alias? <;> exact ⟨_, rfl⟩
  rw [nodes, hkind]
  refine .singleton fun hquiet _ _ => ?_
  have hfaulty := hquiet.1
  simp only [Tree.info, decide_eq_true hcost, Bool.true_or] at hfaulty
  cases hfaulty

mutual
/-- What a part shows that follows the table. -/
theorem Follows.shows : ∀ {s : Subtree} {a b : Nat} {alias? : Option Kind}, (∀ k ∈ alias?, k.isPlain) →
    ∀ field : Option Field, s.Follows a b → Shows (s.nodes alias? field) a b
  | leaf _ _ _, _, _, _, halias, field, h => shows_leaf halias field h
  | branch (.construct n) shape children span extra weight, a, b, alias?, halias, field, h => by
    obtain ⟨-, rfl, top, r, hchildren, -, hreduces, rfl, rfl⟩ := h
    exact shows_construct halias field hreduces fun inherited =>
      FollowsAll.shows (fun _ _ => Grammar.isPlain_alias hreduces) inherited 0 hchildren
  | branch .error _ _ _ _ _, a, b, alias?, _, field, h => shows_error h.2.2 alias? field a b
  | branch .skipped shape children span extra weight, a, b, alias?, halias, field, h => by
    intro _ hb
    exact absurd h.2 hb
  | branch (.terminal _) _ _ _ _ _, _, _, _, _, _, h => h.elim

/-- What consecutive parts show that follow the table. -/
theorem FollowsAll.shows : ∀ {cs : List Subtree} {a b : Nat} {shape : Grammar.Shape},
    (∀ position k, shape.alias? position = some k → k.isPlain) → ∀ (inherited : Option Field) (position : Nat),
    FollowsAll cs a b → Shows (nodesOf shape inherited position cs) a b
  | [], _, _, _, _, _, _, rfl => .nil fun ha _ => ha
  | c :: cs, a, b, shape, halias, inherited, position, ⟨m, hc, hcs⟩ => by
    have hm : m = errorState → b = errorState := by
      rintro rfl
      exact hcs.eq_errorState
    have hnone : ∀ k ∈ (none : Option Kind), k.isPlain := fun _ h => nomatch h
    rw [nodesOf]
    split
    · exact (hc.shows hnone none).append (FollowsAll.shows halias inherited position hcs) hm
    · exact (hc.shows (halias position) _).append (FollowsAll.shows halias inherited (position + 1) hcs) hm
end

/-- The nodes that parts leave are those of the first ones and those of the others. -/
theorem nodesOf_append (shape : Grammar.Shape) (inherited : Option Field) (cs ds : List Subtree) (position : Nat) :
    ∃ position', nodesOf shape inherited position (cs ++ ds)
      = nodesOf shape inherited position cs ++ nodesOf shape inherited position' ds := by
  induction cs generalizing position with
  | nil => exact ⟨position, rfl⟩
  | cons c cs ih =>
    rw [List.cons_append, nodesOf, nodesOf]
    split
    · obtain ⟨position', h⟩ := ih position
      exact ⟨position', by rw [h, List.append_assoc]⟩
    · obtain ⟨position', h⟩ := ih (position + 1)
      exact ⟨position', by rw [h, List.append_assoc]⟩

end Subtree

/-! ## The root -/

open Subtree (FollowsAll nodesOf)

variable {s : Subtree}

theorem Subtree.kind_error (hs : s.symbol = .error) : s.tree.kind = .error := by
  cases s with
  | leaf l span extra =>
    cases l with
    | stray text => rfl
    | _ => cases hs
  | branch symbol shape children span extra weight =>
    cases (hs : symbol = .error)
    rfl

theorem Subtree.faulty_error (hs : s.symbol = .error) (hcost : 0 < s.cost) : s.tree.info.faulty = true := by
  cases s with
  | leaf l span extra =>
    cases l with
    | stray text => cases hcost
    | _ => cases hs
  | branch symbol shape children span extra weight =>
    cases (hs : symbol = .error)
    simp only [tree, nodes, Symbol.kind?, Option.none_or, Tree.info, decide_eq_true (show 0 < weight.cost from hcost),
      Bool.true_or]

theorem Subtree.not_quiet_error (hs : s.symbol = .error) (hcost : 0 < s.cost) : ¬ s.tree.Quiet := by
  intro hquiet
  rw [Tree.Quiet, Subtree.faulty_error hs hcost] at hquiet
  cases hquiet.1

/-- A root that shows no error is made of the parts on the stack, those of the last construct on it, and extra parts
behind, of which the last is the token that was accepted. -/
theorem Parser.Rooted.eq_wrap (h : Parser.Rooted s) :
    s.symbol = .error ∧ 0 < s.cost ∨ ∃ before children after m top r here, FollowsAll before startState m
      ∧ FollowsAll children m top ∧ Grammar.Reduces top r ∧ Grammar.targetOf m r.result ≠ errorState
      ∧ Grammar.clues (Grammar.targetOf m r.result) = [.program]
      ∧ FollowsAll after (Grammar.targetOf m r.result) (Grammar.targetOf m r.result)
      ∧ s = Subtree.wrap (.construct r.result) r.shape here (before ++ children ++ after) := by
  refine h.imp_right fun ⟨parts, lookahead, state, t, hparts, htoken, ht, haccept, hroot⟩ => ?_
  obtain ⟨before, symbol, shape, children, span, weight, after, heq, hextra, rfl⟩ := Parser.root?_eq_some hroot
  rcases List.eq_nil_or_concat after with rfl | ⟨after, last, rfl⟩
  · cases (List.append_inj' heq rfl).2
    cases htoken
  rw [List.concat_eq_append] at heq hextra ⊢
  rw [← List.cons_append, ← List.append_assoc] at heq
  obtain ⟨rfl, hlast⟩ := List.append_inj' heq rfl
  cases hlast
  obtain ⟨m, hbefore, m', hroot, hrest⟩ := Subtree.followsAll_append.1 hparts
  obtain rfl := hrest.eq_of_extra fun c hc => hextra c (List.mem_append_left _ hc)
  have hstate : m' ≠ errorState := by
    rintro rfl
    cases Grammar.isIdle_of_mem_moves haccept
  have hlast : lookahead.Follows m' m' := by
    cases lookahead with
    | leaf l span extra =>
      cases (hextra (.leaf l span extra) (by simp) : extra = true)
      exact ⟨rfl, t, ht, Grammar.isExtra_of_accept haccept⟩
    | branch => cases htoken
  have hafter := Subtree.followsAll_append.2 ⟨m', hrest, Subtree.followsAll_singleton.2 hlast⟩
  cases symbol with
  | construct n =>
    obtain ⟨-, rfl, top, r, hchildren, -, hreduces, rfl, rfl⟩ := hroot
    exact ⟨before, children, _, m, top, r, _, hbefore, hchildren, hreduces, hstate, Grammar.clues_of_accept haccept,
      hafter, rfl⟩
  | error => cases hroot.1
  | skipped => exact absurd hroot.2 hstate
  | terminal t => exact hroot.elim

/-- The nodes that a root leaves: those of the first parts on the stack, of the parts of the last construct on it, and
of the extra parts behind. All of these lie on the way through the parse table. -/
theorem shows_root {before children after : List Subtree} {m top : Nat} {r : Grammar.Reduction}
    (hbefore : FollowsAll before startState m) (hchildren : FollowsAll children m top)
    (hreduces : Grammar.Reduces top r) (hne : Grammar.targetOf m r.result ≠ errorState)
    (hafter : FollowsAll after (Grammar.targetOf m r.result) (Grammar.targetOf m r.result)) (inherited : Option Field) :
    ∃ front back, nodesOf r.shape inherited 0 (before ++ children ++ after) = front ++ back
      ∧ Shows (front ++ back) startState (Grammar.targetOf m r.result)
      ∧ ((∀ t ∈ front, t.Quiet) → r.result ∈ sparseConstructs) := by
  have halias : ∀ position k, r.shape.alias? position = some k → k.isPlain :=
    fun _ _ => Grammar.isPlain_alias hreduces
  have hstart : startState ∈ sparseStates := by decide
  have htop : top ≠ errorState := hreduces.ne_errorState
  have hm : m = errorState → top = errorState := by
    rintro rfl
    exact hchildren.eq_errorState
  obtain ⟨i, hsplit⟩ := Subtree.nodesOf_append r.shape inherited before children 0
  obtain ⟨j, hsplit'⟩ := Subtree.nodesOf_append r.shape inherited (before ++ children) after 0
  have hbefore : Shows (nodesOf r.shape inherited 0 before) startState m := hbefore.shows halias inherited 0
  have hchildren : Shows (nodesOf r.shape inherited i children) m top := hchildren.shows halias inherited i
  refine ⟨_, _, hsplit', ?_, fun hquiet => ?_⟩
  · have hconstruct : Shows (nodesOf r.shape inherited i children) m (Grammar.targetOf m r.result) :=
      hchildren.trans htop fun hm htop hne => Grammar.mem_sparseStates
        (Grammar.staysSparse_targetOf hm (Grammar.mem_sparseConstructs_of_reduces htop hreduces)) hne
    rw [hsplit]
    exact (hbefore.append hconstruct (by rintro rfl; exact absurd (Grammar.targetOf_errorState _) hne)).append
      (hafter.shows halias inherited j) id
  · obtain ⟨-, hsparse⟩ := hbefore.append hchildren hm hstart htop _ [] (List.append_nil _).symm (hsplit ▸ hquiet)
    exact Grammar.mem_sparseConstructs_of_reduces (hsparse rfl) hreduces

/-- The tree of an accepted parse that has no tokens but comments and semicolons. -/
theorem Parser.Rooted.sparse (h : Parser.Rooted s) (hquiet : s.tree.Quiet) : s.tree.Sparse := by
  rcases h.eq_wrap with
    ⟨hs, hcost⟩ | ⟨before, children, after, m, top, r, here, hbefore, hchildren, hreduces, hne, -, hafter, rfl⟩
  · exact absurd hquiet (Subtree.not_quiet_error hs hcost)
  obtain ⟨front, back, hnodes, hshows, hconstruct⟩ := shows_root hbefore hchildren hreduces hne hafter none
  have hsparse := hshows (by decide) hne
  rw [Subtree.tree, Subtree.wrap, Subtree.nodes, Symbol.kind?, Option.none_or, hnodes] at hquiet ⊢
  cases hkind : r.result.kind? with
  | some kind =>
    rw [hkind] at hquiet
    have hbelow := hquiet.children (fun hf => by rw [hf, Bool.or_true]) (Grammar.Nonterminal.isComment_kind? hkind)
    exact ⟨Grammar.Nonterminal.isPlain_kind? (hconstruct fun t ht => hbelow t (List.mem_append_left _ ht)) hkind,
      Tree.sparseIn_iff.2 (hsparse _ [] (List.append_nil _).symm hbelow).1⟩
  | none =>
    -- A root that does not show itself leaves its first node.
    simp only [hkind] at hquiet ⊢
    generalize front ++ back = trees at hquiet hsparse ⊢
    cases trees with
    | nil => exact ⟨rfl, trivial⟩
    | cons t ts =>
      refine (hsparse [t] ts rfl fun u hu => ?_).1 t List.mem_cons_self
      cases List.mem_singleton.1 hu
      exact hquiet

/-- An accepted script without tokens but comments and semicolons has a sparse tree. -/
theorem sparse_of_check {source : List Char} {t : Tree} (h : check source = .ok t) (hwords : t.hasWords = false) :
    t.Sparse := by
  obtain ⟨s, hs, rfl⟩ := rooted_of_parse (check_eq_ok_iff.1 h).1
  exact hs.sparse ⟨clean_of_check h, hwords⟩

end Bookmarklet.Script
