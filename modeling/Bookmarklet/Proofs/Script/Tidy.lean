import Mathlib.Data.List.Induction
import Bookmarklet.Proofs.Script.Sparse

/-!
# The shape of trees without faults

Some passes read the text of a whole node: the name of a declaration, a label, a directive. In a tidy tree (`Tree.Tidy`)
these are single tokens or name no variable, and a `switch` has no functions for cases. The parse of a source is tidy if
it has no faults (`tidy_of_parse`): what is known of the parts on the stack (`Grammar.clues`) is right about the parts
that a reduction takes (`Subtree.FollowsAll.fits_clueAt`), and so its node is tidy (`Subtree.sits_construct`).
-/

namespace Bookmarklet.Script

/-- Kinds of declarations with a name of their own. -/
def Kind.isNamedDeclaration (k : Kind) : Bool := k.isFunctionDeclaration || k = .classDeclaration

namespace Tree

/-- Whether a tree is a token of a kind. -/
def isTokenOf (kind : Kind) : Tree → Bool
  | leaf info _ => info.kind = kind
  | node _ _ => false

/-- In a tidy tree the name of a declaration is an identifier, a label is a token of its own kind, a string names no
variable, and the cases of a `switch` are no functions. -/
inductive Tidy : Tree → Prop
  | leaf (info : Info) (text : List Char) : Tidy (leaf info text)
  | node {info : Info} {children : List Tree}
      (name : info.kind.isNamedDeclaration → ∀ c ∈ children, c.info.field = some .name → c.isTokenOf .identifier)
      (label : ∀ c ∈ children, c.info.field = some .label → c.isTokenOf .statementIdentifier)
      (string : info.kind = .string → ∀ c ∈ children, c.nameLeaves = [])
      (switch : info.kind = .switchBody → ∀ c ∈ children, c.kind.isFunction = false)
      (below : ∀ c ∈ children, c.Tidy) : Tidy (node info children)

end Tree

/-- What a clue about a part tells of the nodes that it leaves. -/
def Grammar.Clue.Leaves : Grammar.Clue → Tree → Prop
  | text, t => t.nameLeaves = []
  | switchPart, t => t.kind.isFunction = false
  | _, _ => True

namespace Tree

/-- What is left of a part in a tree: a tidy node that plays the part given to it, or one that is neither a name nor a
label; it is as the clues about the part have it. -/
structure Sits (t : Tree) (field : Option Field) (fits : Grammar.Clue → Bool) : Prop where
  tidy : t.Tidy
  field : t.info.field = field ∨ t.info.field ≠ some .name ∧ t.info.field ≠ some .label
  leaves : ∀ clue, fits clue → clue.Leaves t

theorem Sits.harmless {t : Tree} {field : Option Field} {fits : Grammar.Clue → Bool} (h : t.Sits field fits)
    (hn : field ≠ some .name) (hl : field ≠ some .label) : t.info.field ≠ some .name ∧ t.info.field ≠ some .label := by
  rcases h.field with hf | hf
  · exact hf ▸ ⟨hn, hl⟩
  · exact hf

end Tree

/-! ## Parts of reductions -/

namespace Grammar

variable {r : Reduction} {known : List Clue}

theorem isName_alias (h : r.isClear known) {position : Nat} {kind : Kind} (hk : r.shape.alias? position = some kind) :
    kind.isName := by
  simp only [Reduction.isClear, Bool.and_eq_true] at h
  obtain ⟨_, _, heq, -⟩ := List.lookup_eq_some_iff.1 hk
  exact List.all_eq_true.1 h.1.1.1 (position, kind) (by rw [heq]; simp)

theorem clue_name (h : r.isClear known) {position : Nat} (hf : r.shape.field? position = some .name) :
    r.result.kind?.isSome ∧ (r.result.isNamed →
      r.clueAt? known position = some .identifier ∧ r.shape.alias? position = none) := by
  simp only [Reduction.isClear, Bool.and_eq_true] at h
  obtain ⟨_, _, heq, -⟩ := List.lookup_eq_some_iff.1 hf
  have hclear := List.all_eq_true.1 h.1.1.2 (position, .name) (by rw [heq]; simp)
  simpa only [Bool.and_eq_true, Bool.or_eq_true, Bool.not_eq_true', decide_eq_true_eq, Option.isNone_iff_eq_none,
    ← Bool.not_eq_true, Classical.or_iff_not_imp_left, Classical.not_not] using hclear

theorem clue_label (h : r.isClear known) {position : Nat} (hf : r.shape.field? position = some .label) :
    r.result.kind?.isSome ∧ r.clueAt? known position = some .token
      ∧ r.shape.alias? position = some .statementIdentifier := by
  simp only [Reduction.isClear, Bool.and_eq_true] at h
  obtain ⟨_, _, heq, -⟩ := List.lookup_eq_some_iff.1 hf
  have hclear := List.all_eq_true.1 h.1.1.2 (position, .label) (by rw [heq]; simp)
  simpa only [Bool.and_eq_true, decide_eq_true_eq, and_assoc] using hclear

/-- Constructs that do not show have neither names nor labels. -/
theorem field_of_hidden (h : r.isClear known) (hk : r.result.kind? = none) {position : Nat} {field : Field}
    (hf : r.shape.field? position = some field) : field ≠ .name ∧ field ≠ .label := by
  constructor
  · rintro rfl
    simpa [hk] using (clue_name h hf).1
  · rintro rfl
    simpa [hk] using (clue_label h hf).1

theorem clue_inside (h : r.isClear known) {clue : Clue} (hi : r.result.inside? = some clue) :
    r.shape = .plain ∧ ∀ position < r.width, r.clueAt? known position = some clue := by
  simp only [Reduction.isClear, Bool.and_eq_true, hi, Option.all_some, decide_eq_true_eq] at h
  refine ⟨h.1.2.1, fun position hp => ?_⟩
  have hget := congrArg (·[r.width - 1 - position]?) h.1.2.2
  simp only [List.getElem?_take, List.getElem?_replicate] at hget
  rw [Reduction.clueAt?, if_pos hp]
  rwa [if_pos (by omega), if_pos (by omega)] at hget

theorem shape_program (h : r.isClear known) (hp : r.result = .program) : r.shape = .plain := by
  simp only [Reduction.isClear, Bool.and_eq_true, hp] at h
  simpa using h.2

theorem Nonterminal.isNamed_of_kind? {n : Nonterminal} {k : Kind} (h : n.kind? = some k) (hk : k.isNamedDeclaration) :
    n.isNamed := by
  cases n <;> cases h <;> first | rfl | cases hk

theorem Nonterminal.inside?_of_string {n : Nonterminal} (h : n.kind? = some .string) : n.inside? = some .text := by
  cases n <;> cases h <;> rfl

theorem Nonterminal.inside?_of_switchBody {n : Nonterminal} (h : n.kind? = some .switchBody) :
    n.inside? = some .switchPart := by
  cases n <;> cases h
  rfl

section Fits

variable {n : Nonterminal} {clue : Clue} (h : clue.fits (.construct n))
include h

/-- A construct that shows is as a clue about it tells. -/
theorem Clue.leaves_node {info : Info} (hk : n.kind? = some info.kind) (children : List Tree) :
    clue.Leaves (.node info children) := by
  cases clue with
  | text => cases n <;> cases h <;> cases hk
  | switchPart =>
    have hcase : info.kind = .switchCase ∨ info.kind = .switchDefault := by
      cases n <;> cases h <;> first
        | cases hk
        | exact .inl (Option.some.inj hk).symm
        | exact .inr (Option.some.inj hk).symm
    rcases hcase with hcase | hcase <;> exact congrArg Kind.isFunction hcase
  | _ => trivial

/-- A clue about a construct that does not show is one about all its parts, or tells nothing of nodes. -/
theorem Clue.inside_of_hidden (hk : n.kind? = none) : n.inside? = some clue ∨ ∀ t, clue.Leaves t := by
  cases clue with
  | text => exact .inl (by cases n <;> cases h <;> rfl)
  | switchPart => exact .inl (by cases n <;> cases h <;> first | rfl | cases hk)
  | _ => exact .inr fun _ => trivial

end Fits

end Grammar

namespace Subtree

open Grammar (errorState Reduces clues Clue)

/-- The parts that are not extra. -/
def ownParts (parts : List Subtree) : List Subtree := parts.filter (!·.extra)

theorem length_ownParts (cs : List Subtree) : (ownParts cs).length = widthOf cs := List.countP_eq_length_filter.symm

/-- The parts that are not extra, from the last one on. -/
theorem reverse_ownParts_concat (cs : List Subtree) (d : Subtree) :
    (ownParts (cs ++ [d])).reverse = if d.extra then (ownParts cs).reverse else d :: (ownParts cs).reverse := by
  cases he : d.extra <;> simp [ownParts, he]

/-- Each node that some parts leave is one that one of them leaves. -/
theorem exists_of_mem_nodesOf {shape : Grammar.Shape} {inherited : Option Field} {t : Tree} :
    ∀ {cs : List Subtree} {position : Nat}, t ∈ nodesOf shape inherited position cs →
      (∃ c ∈ cs, c.extra ∧ t ∈ c.nodes none none) ∨ ∃ (i : Nat) (c : Subtree), (ownParts cs)[i]? = some c
        ∧ t ∈ c.nodes (shape.alias? (position + i)) ((shape.field? (position + i)).or inherited)
  | [], _, h => by cases h
  | c :: cs, position, h => by
    rw [nodesOf] at h
    split at h
    next he =>
      rcases List.mem_append.1 h with h | h
      · exact .inl ⟨c, List.mem_cons_self, he, h⟩
      · refine (exists_of_mem_nodesOf h).imp (fun ⟨d, hd, h⟩ => ⟨d, List.mem_cons_of_mem c hd, h⟩)
          fun ⟨i, d, hi, h⟩ => ?_
        rw [ownParts, List.filter_cons_of_neg (by simpa using he)]
        exact ⟨i, d, hi, h⟩
    next he =>
      have hown : ownParts (c :: cs) = c :: ownParts cs := List.filter_cons_of_pos (by simpa using he)
      rcases List.mem_append.1 h with h | h
      · exact .inr ⟨0, c, by rw [hown, List.getElem?_cons_zero], h⟩
      · refine (exists_of_mem_nodesOf h).imp (fun ⟨d, hd, h⟩ => ⟨d, List.mem_cons_of_mem c hd, h⟩)
          fun ⟨i, d, hi, h⟩ => ?_
        refine ⟨i + 1, d, by rwa [hown], ?_⟩
        rwa [show position + (i + 1) = position + 1 + i by omega]

section Follows

variable {s : Subtree} {cs : List Subtree} {a b : Nat}

/-- A part that is not extra leads to a state that knows of it. -/
theorem Follows.agrees (h : s.Follows a b) (he : s.extra = false) :
    Grammar.agrees (·.fits s.symbol) (clues a) (clues b) := by
  cases s with
  | leaf l span extra =>
    cases (he : extra = false)
    obtain ⟨-, t, ht, hmove⟩ := h
    rw [symbol, ht]
    exact Grammar.agrees_of_terminal (hmove.imp_right fun h => ⟨h.2.1, h.2.2.1⟩)
  | branch symbol shape children span extra weight =>
    cases (he : extra = false)
    cases symbol with
    | construct n =>
      obtain ⟨-, rfl, -⟩ := h
      exact Grammar.agrees_of_targetOf a n
    | error => cases h.1
    | skipped =>
      obtain ⟨-, rfl⟩ := h
      rw [Grammar.clues_errorState, Grammar.agrees]
    | terminal t => exact h.elim

/-- What is known of the parts below a state is right. -/
theorem FollowsAll.fits (h : FollowsAll cs a b) : ∀ (i : Nat) (clue : Clue) (c : Subtree),
    (clues b)[i]? = some clue → (ownParts cs).reverse[i]? = some c → clue.fits c.symbol := by
  induction cs using List.reverseRecOn generalizing b with
  | nil => intro i clue c _ hc; cases hc
  | append_singleton cs d ih =>
    obtain ⟨m, hcs, hd⟩ := followsAll_append.1 h
    rw [followsAll_singleton] at hd
    intro i clue c hclue hc
    by_cases he : d.extra
    · obtain rfl := hd.eq_of_extra he
      rw [reverse_ownParts_concat, if_pos he] at hc
      exact ih hcs i clue c hclue hc
    · have hagrees := hd.agrees (by simpa using he)
      rw [reverse_ownParts_concat, if_neg he] at hc
      cases hb : clues b with
      | nil => rw [hb] at hclue; cases hclue
      | cons first rest =>
        rw [hb] at hclue hagrees
        rw [Grammar.agrees, Bool.and_eq_true, List.isPrefixOf_iff_prefix] at hagrees
        cases i with
        | zero =>
          cases hclue
          cases hc
          exact hagrees.1
        | succ i =>
          obtain ⟨hlt, rfl⟩ := List.getElem?_eq_some_iff.1 hclue
          exact ih hcs i _ c (List.prefix_iff_getElem?.1 hagrees.2 i (Nat.lt_of_succ_lt_succ hlt)) hc

/-- What a state tells of the parts of a reduction is right. -/
theorem FollowsAll.fits_clueAt {r : Grammar.Reduction} (h : FollowsAll cs a b) (hwidth : widthOf cs = r.width) {i : Nat}
    {clue : Clue} {c : Subtree} (hclue : r.clueAt? (clues b) i = some clue) (hc : (ownParts cs)[i]? = some c) :
    clue.fits c.symbol := by
  have hlength := (length_ownParts cs).trans hwidth
  obtain ⟨hlt, -⟩ := List.getElem?_eq_some_iff.1 hc
  rw [Grammar.Reduction.clueAt?, if_pos (by omega)] at hclue
  refine h.fits _ clue c hclue ?_
  rw [List.getElem?_reverse (by omega), ← hc]
  congr 1
  omega

theorem FollowsAll.exists_follows (h : FollowsAll cs a b) (hb : b ≠ errorState) :
    ∀ c ∈ cs, ∃ m n, c.Follows m n ∧ n ≠ errorState := by
  induction cs generalizing a with
  | nil => exact nofun
  | cons d cs ih =>
    obtain ⟨m, hd, hcs⟩ := h
    intro c hc
    rcases List.mem_cons.1 hc with rfl | hc
    · refine ⟨a, m, hd, ?_⟩
      rintro rfl
      exact hb hcs.eq_errorState
    · exact ih hcs c hc

end Follows

/-! ## What parts leave -/

/-- Whether a clue is right about a part that is seen as what it is. Extra parts may stand anywhere. -/
def fits (s : Subtree) (alias? : Option Kind) (clue : Clue) : Bool := (s.extra || clue.fits s.symbol) && alias?.isNone

theorem namesVariable_of_isExtra {l : Leaf} (h : l.IsExtra) {k : Kind} (hk : l.kind? = some k) :
    k.namesVariable = false := by
  obtain ⟨t, ht, he⟩ := h
  cases l with
  | mark t' => cases hk
  | stray text => cases ht
  | _ =>
    cases ht
    cases t <;> cases he <;> cases hk <;> rfl

theorem namesVariable_of_isQuoted {l : Leaf} (h : Clue.text.fits l.symbol) {k : Kind} (hk : l.kind? = some k) :
    k.namesVariable = false := by
  cases l with
  | mark t => cases hk
  | stray text => cases h
  | token t _ _ | missing t | hollow t => cases t <;> cases h <;> cases hk <;> rfl

theorem isFunction_leaf {l : Leaf} {k : Kind} (hk : l.kind? = some k) : k.isFunction = false := by
  cases l with
  | mark t => cases hk
  | stray text => cases hk; rfl
  | token t _ _ | missing t | hollow t => cases t <;> cases hk <;> rfl

theorem sits_leaf {l : Leaf} {span : Span} {extra : Bool} {a b : Nat} (h : (leaf l span extra).Follows a b)
    (alias? : Option Kind) (field : Option Field) :
    ∀ t ∈ (leaf l span extra).nodes alias? field, t.Sits field ((leaf l span extra).fits alias?) := by
  intro t ht
  rw [nodes] at ht
  split at ht
  next kind hkind =>
    cases List.mem_singleton.1 ht
    refine ⟨.leaf _ _, .inl rfl, fun clue hfits => ?_⟩
    rw [fits, Bool.and_eq_true, Bool.or_eq_true, Option.isNone_iff_eq_none] at hfits
    obtain ⟨hfits, rfl⟩ := hfits
    have hkind : l.kind? = some kind := by
      split at hkind
      · exact hkind
      · cases hkind
    cases clue with
    | text =>
      have hname : kind.namesVariable = false := by
        rcases hfits with he | hfits
        · rw [Follows, if_pos (show extra = true from he)] at h
          exact namesVariable_of_isExtra h.2 hkind
        · exact namesVariable_of_isQuoted hfits hkind
      rw [Clue.Leaves, Tree.nameLeaves, if_neg (by simp [hname])]
    | switchPart => exact isFunction_leaf hkind
    | _ => trivial
  next => cases ht

/-- A token leaves a token, of its own kind or of the one that it is given. -/
theorem isTokenOf_of_mem_nodes {c : Subtree} {u : Terminal} (hc : c.symbol = .terminal u) {a b : Nat}
    (h : c.Follows a b) {alias? : Option Kind} {field : Option Field} {kind : Kind}
    (hk : ∀ k ∈ alias?.or u.kind?, k = kind) {t : Tree} (ht : t ∈ c.nodes alias? field) : t.isTokenOf kind := by
  cases c with
  | leaf l span extra =>
    rw [nodes] at ht
    split at ht
    next kind' hkind =>
      cases List.mem_singleton.1 ht
      refine decide_eq_true (hk _ ?_)
      split at hkind
      next hsome =>
        cases l with
        | stray text => cases hc
        | mark t' => cases hsome
        | token t' _ _ | missing t' | hollow t' => cases hc; exact hkind
      next => cases hkind
    next => cases ht
  | branch symbol shape children span extra weight =>
    cases (hc : symbol = .terminal u)
    exact h.elim

/-- So does a token among some parts that follow the table. -/
theorem FollowsAll.isTokenOf {cs : List Subtree} {a b : Nat} (h : FollowsAll cs a b) (hb : b ≠ errorState) {i : Nat}
    {c : Subtree} (hi : (ownParts cs)[i]? = some c) {u : Terminal} (hc : c.symbol = .terminal u) {alias? : Option Kind}
    {field : Option Field} {kind : Kind} (hk : ∀ k ∈ alias?.or u.kind?, k = kind) {t : Tree}
    (ht : t ∈ c.nodes alias? field) : t.isTokenOf kind := by
  obtain ⟨m, n, hm, -⟩ := h.exists_follows hb c (List.mem_of_mem_filter (List.mem_of_getElem? hi))
  exact isTokenOf_of_mem_nodes hc hm hk ht

section Construct

variable {r : Grammar.Reduction} {children : List Subtree} {a top : Nat} (hfollows : FollowsAll children a top)
  (hwidth : widthOf children = r.width) (hreduces : Reduces top r)
  (hbelow : ∀ c ∈ children, ∀ (alias? : Option Kind) (field : Option Field), (∀ k ∈ alias?, k.isName) →
    ∀ t ∈ c.nodes alias? field, t.info.faulty = false → t.Sits field (c.fits alias?))
include hreduces hbelow

/-- A node that the parts of a reduction leave is one of an extra part, or of a part with a number. -/
theorem sits_below {inherited : Option Field} {t : Tree} (ht : t ∈ nodesOf r.shape inherited 0 children)
    (hclean : t.info.faulty = false) : t.Sits none (fun _ => true)
      ∨ ∃ (i : Nat) (c : Subtree), (ownParts children)[i]? = some c
      ∧ t ∈ c.nodes (r.shape.alias? i) ((r.shape.field? i).or inherited)
      ∧ t.Sits ((r.shape.field? i).or inherited) (c.fits (r.shape.alias? i)) := by
  refine (exists_of_mem_nodesOf ht).imp (fun ⟨c, hc, he, ht⟩ => ?_) fun ⟨i, c, hi, ht⟩ => ?_
  · have hsits := hbelow c hc none none nofun t ht hclean
    have hall : c.fits none = fun _ => true := by
      funext clue
      rw [fits, he, Bool.true_or]
      rfl
    rwa [hall] at hsits
  · rw [Nat.zero_add] at ht
    have hc : c ∈ children := List.mem_of_mem_filter (List.mem_of_getElem? hi)
    have halias : ∀ k ∈ r.shape.alias? i, k.isName := fun k hk =>
      Grammar.isName_alias (Grammar.isClear_of_reduces hreduces) hk
    exact ⟨i, c, hi, ht, hbelow c hc _ _ halias t ht hclean⟩

/-- A name or a label is left by a part that plays it. -/
theorem exists_part {field : Field} (hfield : field = .name ∨ field = .label) {t : Tree}
    (ht : t ∈ nodesOf r.shape none 0 children) (hclean : t.info.faulty = false) (hf : t.info.field = some field) :
    ∃ (i : Nat) (c : Subtree), (ownParts children)[i]? = some c ∧ r.shape.field? i = some field
      ∧ t ∈ c.nodes (r.shape.alias? i) (some field) := by
  have hne (h : t.info.field ≠ some .name ∧ t.info.field ≠ some .label) : False := by
    rcases hfield with rfl | rfl
    · exact h.1 hf
    · exact h.2 hf
  rcases sits_below hreduces hbelow ht hclean with hsits | ⟨i, c, hi, hmem, hsits⟩
  · exact (hne (hsits.harmless nofun nofun)).elim
  · rw [Option.or_none] at hmem hsits
    have hplays : r.shape.field? i = some field := hsits.field.elim (fun h => h ▸ hf) fun h => (hne h).elim
    exact ⟨i, c, hi, hplays, hplays ▸ hmem⟩

include hfollows hwidth

/-- The nodes below a construct are what all its parts are. -/
theorem leaves_below {clue : Clue} (hi : r.result.inside? = some clue) {inherited : Option Field} {t : Tree}
    (ht : t ∈ nodesOf r.shape inherited 0 children) (hclean : t.info.faulty = false) : clue.Leaves t := by
  obtain ⟨hplain, hclue⟩ := Grammar.clue_inside (Grammar.isClear_of_reduces hreduces) hi
  rcases sits_below hreduces hbelow ht hclean with hsits | ⟨i, c, hi, -, hsits⟩
  · exact hsits.leaves clue rfl
  · have hlt := (List.getElem?_eq_some_iff.1 hi).1
    rw [length_ownParts, hwidth] at hlt
    refine hsits.leaves clue ?_
    rw [fits, hfollows.fits_clueAt hwidth (hclue i hlt) hi, hplain, Bool.or_true]
    rfl

/-- The name of a declaration is an identifier. -/
theorem isTokenOf_name (hn : r.result.isNamed) {t : Tree} (ht : t ∈ nodesOf r.shape none 0 children)
    (hclean : t.info.faulty = false) (hf : t.info.field = some .name) : t.isTokenOf .identifier := by
  obtain ⟨i, c, hi, hfield, hmem⟩ := exists_part hreduces hbelow (.inl rfl) ht hclean hf
  obtain ⟨hclue, halias⟩ := (Grammar.clue_name (Grammar.isClear_of_reduces hreduces) hfield).2 hn
  have hfits := hfollows.fits_clueAt hwidth hclue hi
  cases hs : c.symbol with
  | terminal u =>
    rw [hs] at hfits
    obtain rfl : u = .identifier := of_decide_eq_true hfits
    refine hfollows.isTokenOf hreduces.ne_errorState hi hs (fun k hk => ?_) hmem
    rw [halias] at hk
    cases hk
    rfl
  | _ => rw [hs] at hfits; cases hfits

/-- A label is a token of its own kind. -/
theorem isTokenOf_label {t : Tree} (ht : t ∈ nodesOf r.shape none 0 children)
    (hclean : t.info.faulty = false) (hf : t.info.field = some .label) : t.isTokenOf .statementIdentifier := by
  obtain ⟨i, c, hi, hfield, hmem⟩ := exists_part hreduces hbelow (.inr rfl) ht hclean hf
  obtain ⟨-, hclue, halias⟩ := Grammar.clue_label (Grammar.isClear_of_reduces hreduces) hfield
  have hfits := hfollows.fits_clueAt hwidth hclue hi
  cases hs : c.symbol with
  | terminal u =>
    refine hfollows.isTokenOf hreduces.ne_errorState hi hs (fun k hk => ?_) hmem
    rw [halias] at hk
    cases hk
    rfl
  | _ => rw [hs] at hfits; cases hfits

/-- What a reduction leaves is tidy: a node of its own, or the nodes of its parts. -/
theorem sits_construct {span : Span} {weight : Weight} {alias? : Option Kind} (halias : ∀ k ∈ alias?, k.isName)
    (field : Option Field) :
    ∀ t ∈ (branch (.construct r.result) r.shape children span false weight).nodes alias? field,
      t.info.faulty = false →
      t.Sits field ((branch (.construct r.result) r.shape children span false weight).fits alias?) := by
  intro t ht hclean
  have hclear := Grammar.isClear_of_reduces hreduces
  rw [nodes] at ht
  split at ht
  next kind hkind =>
    cases List.mem_singleton.1 ht
    have hfaulty : ∀ u ∈ nodesOf r.shape none 0 children, u.info.faulty = false := fun u hu =>
      Bool.eq_false_iff.2 (List.any_eq_false.1 (Bool.or_eq_false_iff.1 hclean).2 u hu)
    have hown (h : kind.isName = false) : r.result.kind? = some kind := by
      cases alias? with
      | none => exact hkind
      | some name =>
        cases hkind
        exact absurd (halias kind rfl) (by simp [h])
    refine ⟨.node (fun hn u hu hf => ?_) (fun u hu hf => ?_) (fun hs u hu => ?_) (fun hs u hu => ?_) fun u hu => ?_,
      .inl rfl, fun clue hfits => ?_⟩
    · have hname : kind.isName = false := by
        revert hn
        cases kind <;> intro h <;> first | rfl | cases h
      exact isTokenOf_name hfollows hwidth hreduces hbelow (Grammar.Nonterminal.isNamed_of_kind? (hown hname) hn) hu
        (hfaulty u hu) hf
    · exact isTokenOf_label hfollows hwidth hreduces hbelow hu (hfaulty u hu) hf
    · cases (hs : kind = .string)
      have hinside := Grammar.Nonterminal.inside?_of_string (hown rfl)
      exact leaves_below hfollows hwidth hreduces hbelow hinside hu (hfaulty u hu)
    · cases (hs : kind = .switchBody)
      have hinside := Grammar.Nonterminal.inside?_of_switchBody (hown rfl)
      exact leaves_below hfollows hwidth hreduces hbelow hinside hu (hfaulty u hu)
    · rcases sits_below hreduces hbelow hu (hfaulty u hu) with hsits | ⟨_, _, -, -, hsits⟩
      · exact hsits.tidy
      · exact hsits.tidy
    · rw [fits, extra, Bool.false_or, Bool.and_eq_true, Option.isNone_iff_eq_none] at hfits
      obtain ⟨hfits, rfl⟩ := hfits
      exact Clue.leaves_node hfits (by exact hkind) _
  next hkind =>
    rw [Option.or_eq_none_iff] at hkind
    have hsits := sits_below hreduces hbelow ht hclean
    refine ⟨?_, ?_, fun clue hfits => ?_⟩
    · rcases hsits with hsits | ⟨_, _, -, -, hsits⟩
      · exact hsits.tidy
      · exact hsits.tidy
    · rcases hsits with hsits | ⟨i, c, -, -, hsits⟩
      · exact .inr (hsits.harmless (Option.some_ne_none _).symm (Option.some_ne_none _).symm)
      · cases hf : r.shape.field? i with
        | none =>
          rw [hf] at hsits
          exact hsits.field
        | some f =>
          obtain ⟨hn, hl⟩ := Grammar.field_of_hidden hclear hkind.2 hf
          rw [hf] at hsits
          exact .inr (hsits.harmless (by simpa using hn) (by simpa using hl))
    · rw [fits, extra, Bool.false_or, Bool.and_eq_true] at hfits
      rcases Clue.inside_of_hidden hfits.1 hkind.2 with hinside | htrue
      · exact leaves_below hfollows hwidth hreduces hbelow hinside ht hclean
      · exact htrue t

end Construct

/-- What a part leaves that follows the table is tidy, as far as it has no faults. -/
theorem Follows.sits : ∀ {s : Subtree} {a b : Nat}, s.Follows a b → b ≠ errorState → ∀ (alias? : Option Kind)
    (field : Option Field), (∀ k ∈ alias?, k.isName) → ∀ t ∈ s.nodes alias? field, t.info.faulty = false →
    t.Sits field (s.fits alias?)
  | leaf _ _ _, _, _, h, _, alias?, field, _, t, ht, _ => sits_leaf h alias? field t ht
  | branch (.construct n) shape children span extra weight, a, b, h, _, alias?, field, halias, t, ht, hclean => by
    obtain ⟨rfl, rfl, top, r, hchildren, hwidth, hreduces, rfl, rfl⟩ := h
    have htop : top ≠ errorState := hreduces.ne_errorState
    refine sits_construct hchildren hwidth hreduces (fun c hc => ?_) halias field t ht hclean
    obtain ⟨m, n, hfollows, hn⟩ := hchildren.exists_follows htop c hc
    exact hfollows.sits hn
  | branch .error shape children span extra weight, a, b, h, _, alias?, field, _, t, ht, hclean => by
    obtain ⟨kind, hkind⟩ : ∃ kind, alias?.or Symbol.error.kind? = some kind := by cases alias? <;> exact ⟨_, rfl⟩
    rw [nodes, hkind] at ht
    cases List.mem_singleton.1 ht
    simp only [Tree.info, decide_eq_true h.2.2, Bool.true_or] at hclean
    cases hclean
  | branch .skipped _ _ _ _ _, _, _, h, hb, _, _, _, _, _, _ => absurd h.2 hb
  | branch (.terminal _) _ _ _ _ _, _, _, h, _, _, _, _, _, _, _ => h.elim
termination_by s => sizeOf s
decreasing_by
  have := List.sizeOf_lt_of_mem hc
  simp
  omega

end Subtree

/-! ## The tree of a source -/

open Grammar (errorState)

/-- The parse of a source is an error, or a program made of what parts leave that follow the table, which play no parts
in it. -/
theorem root_of_parse {source : List Char} {t : Tree} (h : parse source = some t) :
    t.kind = .error ∧ t.info.faulty ∨ t.kind = .program ∧ t.info.missing = false ∧ ∀ u ∈ t.children,
      (u.info.faulty → t.info.faulty)
        ∧ ∃ (c : Subtree) (a b : Nat), c.Follows a b ∧ b ≠ errorState ∧ u ∈ c.nodes none none := by
  obtain ⟨s, hs, rfl⟩ := rooted_of_parse h
  rcases hs.eq_wrap with
    ⟨hs, hcost⟩ | ⟨before, children, after, m, top, r, here, hbefore, hchildren, hreduces, hne, hclues, hafter, rfl⟩
  · exact .inl ⟨Subtree.kind_error hs, Subtree.faulty_error hs hcost⟩
  have htop : top ≠ errorState := hreduces.ne_errorState
  have hm : m ≠ errorState := by
    rintro rfl
    exact htop hchildren.eq_errorState
  have hprogram : r.result = .program := by
    have hagrees := Grammar.agrees_of_targetOf m r.result
    rw [hclues, Grammar.agrees, Bool.and_eq_true] at hagrees
    exact of_decide_eq_true hagrees.1
  have hplain := Grammar.shape_program (Grammar.isClear_of_reduces hreduces) hprogram
  have hparts : ∀ c ∈ before ++ children ++ after, ∃ a b, c.Follows a b ∧ b ≠ errorState := by
    intro c hc
    rcases List.mem_append.1 hc with hc | hc
    · rcases List.mem_append.1 hc with hc | hc
      · exact hbefore.exists_follows hm c hc
      · exact hchildren.exists_follows htop c hc
    · exact hafter.exists_follows hne c hc
  have hkind : Grammar.Nonterminal.program.kind? = some .program := rfl
  simp only [Subtree.tree, Subtree.wrap, Subtree.nodes, Symbol.kind?, Option.none_or, hprogram, hplain, hkind]
  refine .inr ⟨rfl, rfl, fun u hu => ⟨fun hf => ?_, ?_⟩⟩
  · exact Bool.or_eq_true_iff.2 (.inr (List.any_eq_true.2 ⟨u, hu, hf⟩))
  · have hmem : ∃ c ∈ before ++ children ++ after, u ∈ c.nodes none none := by
      rcases Subtree.exists_of_mem_nodesOf hu with ⟨c, hc, -, hu⟩ | ⟨i, c, hi, hu⟩
      · exact ⟨c, hc, hu⟩
      · exact ⟨c, List.mem_of_mem_filter (List.mem_of_getElem? hi), hu⟩
    obtain ⟨c, hc, hu⟩ := hmem
    obtain ⟨a, b, hfollows, hb⟩ := hparts c hc
    exact ⟨c, a, b, hfollows, hb, hu⟩

/-- Without faults it is a program, and has none in it. -/
theorem exists_part_of_parse {source : List Char} {t : Tree} (h : parse source = some t)
    (hclean : t.info.faulty = false) :
    t.kind = .program ∧ ∀ u ∈ t.children, u.info.faulty = false
      ∧ ∃ (c : Subtree) (a b : Nat), c.Follows a b ∧ b ≠ errorState ∧ u ∈ c.nodes none none := by
  rcases root_of_parse h with ⟨-, hfaulty⟩ | ⟨hk, -, hparts⟩
  · rw [hclean] at hfaulty
    cases hfaulty
  · refine ⟨hk, fun u hu => ⟨Bool.eq_false_iff.2 fun hf => ?_, (hparts u hu).2⟩⟩
    have hfaulty := (hparts u hu).1 hf
    rw [hclean] at hfaulty
    cases hfaulty

/-- The parse of a source is a tidy program if it has no faults. -/
theorem tidy_of_parse {source : List Char} {t : Tree} (h : parse source = some t) (hclean : t.info.faulty = false) :
    t.Tidy ∧ t.kind = .program := by
  obtain ⟨hk, hparts⟩ := exists_part_of_parse h hclean
  have hsits : ∀ u ∈ t.children, ∃ fits, u.Sits none fits := fun u hu => by
    obtain ⟨hfaulty, c, a, b, hfollows, hb, hu⟩ := hparts u hu
    exact ⟨_, hfollows.sits hb none none nofun u hu hfaulty⟩
  refine ⟨?_, hk⟩
  cases t with
  | leaf info text => exact .leaf info text
  | node info children =>
    have hprogram : info.kind = .program := hk
    refine .node (by simp [hprogram, Kind.isNamedDeclaration, Kind.isFunctionDeclaration]) (fun u hu hf => ?_)
      (by simp [hprogram]) (by simp [hprogram]) fun u hu => ?_
    · obtain ⟨fits, hu⟩ := hsits u hu
      exact absurd hf (hu.harmless (Option.some_ne_none _).symm (Option.some_ne_none _).symm).2
    · obtain ⟨fits, hu⟩ := hsits u hu
      exact hu.tidy

end Bookmarklet.Script
