import Bookmarklet.Proofs.Script.Grammar.Remark
import Bookmarklet.Proofs.Script.Tidy

/-!
# Where comments stand

In the tree of a source without faults, comments hold nothing and play no part in the nodes that they stand in
(`setsApart_of_parse`). Comments of the usual forms are extra parts, which no rule of the grammar mentions, and extra
parts are given no part to play. A hash bang line is part of a program (`Subtree.FollowsAll.ne_hashBang`), whose rules
give none to their parts.
-/

namespace Bookmarklet.Script

namespace Tree

/-- Comments in a tree hold nothing and play no part in the nodes that they stand in. -/
inductive SetsApart : Tree → Prop
  | intro {t : Tree} (comment : ∀ c ∈ t.children, c.kind.isComment → c.children = [] ∧ c.info.field = none)
      (below : ∀ c ∈ t.children, c.SetsApart) : SetsApart t

theorem setsApart_leaf (info : Info) (text : List Char) : (leaf info text).SetsApart := .intro nofun nofun

section SetsApart

variable {t : Tree} (h : t.SetsApart)
include h

theorem SetsApart.comment : ∀ c ∈ t.children, c.kind.isComment → c.children = [] ∧ c.info.field = none := by
  cases h with
  | intro comment _ => exact comment

theorem SetsApart.child : ∀ c ∈ t.children, c.SetsApart := by
  cases h with
  | intro _ below => exact below

end SetsApart
end Tree

/-! ## Hash bang lines -/

theorem Kind.isComment_of_isName {k : Kind} (h : k.isName) : k.isComment = false := by
  cases k <;> first | rfl | cases h

theorem Terminal.isRemark_of_kind? {t : Terminal} {k : Kind} (hk : t.kind? = some k) (hc : k.isComment) :
    t.isRemark := by
  cases t <;> cases hk <;> first | rfl | cases hc

namespace Subtree

open Grammar (errorState Reduces height)

section Follows

variable {s : Subtree} {cs : List Subtree} {a b : Nat}

/-- A part that is not extra leads at most one up. -/
theorem Follows.height_le (h : s.Follows a b) (he : s.extra = false) : height b ≤ height a + 1 := by
  cases s with
  | leaf l span extra =>
    cases (he : extra = false)
    obtain ⟨-, t, -, hmove⟩ := h
    exact (Grammar.height_le_of_terminal (hmove.imp_right (·.2))).1
  | branch symbol shape children span extra weight =>
    cases (he : extra = false)
    cases symbol with
    | construct n =>
      obtain ⟨-, rfl, -⟩ := h
      exact Grammar.height_le_of_targetOf a n
    | error => cases h.1
    | skipped =>
      obtain ⟨-, rfl⟩ := h
      rw [Grammar.height_errorState]
      exact Nat.zero_le _
    | terminal t => exact h.elim

/-- Of the tokens that are comments, only a hash bang line is not extra, and it leads to the ground. -/
theorem Follows.height_of_isRemark (h : s.Follows a b) (he : s.extra = false) {t : Terminal}
    (hs : s.symbol = .terminal t) (ht : t.isRemark) : height b = 0 ∧ t = .hashBangLine := by
  cases s with
  | leaf l span extra =>
    cases (he : extra = false)
    obtain ⟨-, u, hu, hmove⟩ := h
    obtain rfl : u = t := Symbol.terminal.inj (hu.symm.trans hs)
    obtain ⟨hground, hextra⟩ := (Grammar.height_le_of_terminal (hmove.imp_right (·.2))).2 ht
    rw [Terminal.isRemark, hextra, Bool.or_false, decide_eq_true_eq] at ht
    exact ⟨hground, ht⟩
  | branch symbol shape children span extra weight =>
    cases (hs : symbol = .terminal t)
    exact h.elim

/-- As many parts as a state is high are no hash bang lines. -/
theorem FollowsAll.ne_hashBang (h : FollowsAll cs a b) : ∀ i < height b, ∀ c, (ownParts cs).reverse[i]? = some c →
    c.symbol ≠ .terminal .hashBangLine := by
  induction cs using List.reverseRecOn generalizing b with
  | nil => intro i _ c hc; cases hc
  | append_singleton cs d ih =>
    obtain ⟨m, hcs, hd⟩ := followsAll_append.1 h
    rw [followsAll_singleton] at hd
    intro i hi c hc
    by_cases he : d.extra
    · obtain rfl := hd.eq_of_extra he
      rw [reverse_ownParts_concat, if_pos he] at hc
      exact ih hcs i hi c hc
    · rw [reverse_ownParts_concat, if_neg he] at hc
      have he : d.extra = false := by simpa using he
      cases i with
      | zero =>
        cases hc
        intro hs
        have hground := (hd.height_of_isRemark he hs rfl).1
        omega
      | succ i =>
        have hle := hd.height_le he
        exact ih hcs i (by omega) c hc

/-- Only a program has a hash bang line for a part. -/
theorem FollowsAll.ne_hashBang_of_reduces {r : Grammar.Reduction} (h : FollowsAll cs a b)
    (hwidth : widthOf cs = r.width) (hreduces : Reduces b r) (hr : r.result ≠ .program) :
    ∀ c ∈ ownParts cs, c.symbol ≠ .terminal .hashBangLine := by
  intro c hc
  obtain ⟨i, hi⟩ := List.mem_iff_getElem?.1 (List.mem_reverse.2 hc)
  have hlt := (List.getElem?_eq_some_iff.1 hi).1
  rw [List.length_reverse, length_ownParts, hwidth] at hlt
  have hheight := (Grammar.width_le_of_reduces hreduces).resolve_right hr
  exact h.ne_hashBang i (Nat.lt_of_lt_of_le hlt hheight) c hi

end Follows

/-! ## What parts leave -/

/-- A node that a part leaves, which plays the part in its parent that is given to it: a comment among those holds
nothing, and plays a part only if it is all of an extra part or a hash bang line. -/
structure LeavesApart (s : Subtree) (field : Option Field) (t : Tree) : Prop where
  apart : t.SetsApart
  comment : t.kind.isComment → t.children = [] ∧ (t.info.field = none
    ∨ t.info.field = field ∧ (s.extra ∨ s.symbol = .terminal .hashBangLine))

theorem leavesApart_leaf {l : Leaf} {span : Span} {extra : Bool} {a b : Nat} (h : (leaf l span extra).Follows a b)
    {alias? : Option Kind} (halias : ∀ k ∈ alias?, k.isName) (field : Option Field) :
    ∀ t ∈ (leaf l span extra).nodes alias? field, (leaf l span extra).LeavesApart field t := by
  intro t ht
  rw [nodes] at ht
  split at ht
  next kind hkind =>
    cases List.mem_singleton.1 ht
    refine ⟨Tree.setsApart_leaf _ _, fun hc => ⟨rfl, .inr ⟨rfl, ?_⟩⟩⟩
    split at hkind
    next hsome =>
      cases he : extra with
      | true => exact .inl rfl
      | false =>
        subst he
        have hown : l.kind? = some kind := by
          cases alias? with
          | none => exact hkind
          | some name =>
            cases hkind
            have hnot := Kind.isComment_of_isName (halias kind rfl)
            rw [show kind.isComment = true from hc] at hnot
            cases hnot
        have hfollows := h
        obtain ⟨-, u, hu, -⟩ := hfollows
        have hremark : u.isRemark := by
          refine Terminal.isRemark_of_kind? (k := kind) ?_ hc
          cases l <;> cases hu <;> first | exact hown | cases hsome
        exact .inr (hu.trans (congrArg Symbol.terminal (h.height_of_isRemark rfl hu hremark).2))
    next => cases hkind
  next => cases ht

section Construct

variable {r : Grammar.Reduction} {children : List Subtree} {a top : Nat} (hfollows : FollowsAll children a top)
  (hwidth : widthOf children = r.width) (hreduces : Reduces top r)
  (hbelow : ∀ c ∈ children, ∀ (alias? : Option Kind) (field : Option Field), (∀ k ∈ alias?, k.isName) →
    ∀ t ∈ c.nodes alias? field, t.info.faulty = false → c.LeavesApart field t)
include hfollows hwidth hreduces hbelow

/-- A comment that the parts of a construct leave plays no part in it, even where the construct does not show. -/
theorem apart_below {inherited : Option Field} (hinherited : r.result = .program → inherited = none) {t : Tree}
    (ht : t ∈ nodesOf r.shape inherited 0 children) (hclean : t.info.faulty = false) :
    t.SetsApart ∧ (t.kind.isComment → t.children = [] ∧ t.info.field = none) := by
  rcases exists_of_mem_nodesOf ht with ⟨c, hc, -, ht⟩ | ⟨i, c, hi, ht⟩
  · have hleaves := hbelow c hc none none nofun t ht hclean
    exact ⟨hleaves.apart, fun hk => (hleaves.comment hk).imp_right fun h => h.elim id (·.1)⟩
  · rw [Nat.zero_add] at ht
    have hown : c ∈ ownParts children := List.mem_of_getElem? hi
    obtain ⟨hc, he⟩ := List.mem_filter.1 hown
    have halias : ∀ k ∈ r.shape.alias? i, k.isName := fun k hk =>
      Grammar.isName_alias (Grammar.isClear_of_reduces hreduces) hk
    have hleaves := hbelow c hc _ _ halias t ht hclean
    refine ⟨hleaves.apart, fun hk => (hleaves.comment hk).imp_right fun h => ?_⟩
    rcases h with hnone | ⟨hfield, hextra | hs⟩
    · exact hnone
    · rw [hextra] at he
      cases he
    · have hprogram : r.result = .program := by
        by_contra hne
        exact hfollows.ne_hashBang_of_reduces hwidth hreduces hne c hown hs
      have hplain := Grammar.shape_program (Grammar.isClear_of_reduces hreduces) hprogram
      rw [hfield, hplain, hinherited hprogram]
      rfl

end Construct

/-- What a part leaves that follows the table sets its comments apart, as far as it has no faults. -/
theorem Follows.leavesApart : ∀ {s : Subtree} {a b : Nat}, s.Follows a b → b ≠ errorState →
    ∀ (alias? : Option Kind) (field : Option Field), (∀ k ∈ alias?, k.isName) → ∀ t ∈ s.nodes alias? field,
    t.info.faulty = false → s.LeavesApart field t
  | leaf _ _ _, _, _, h, _, _, field, halias, t, ht, _ => leavesApart_leaf h halias field t ht
  | branch (.construct n) shape children span extra weight, a, b, h, _, alias?, field, halias, t, ht, hclean => by
    obtain ⟨rfl, rfl, top, r, hchildren, hwidth, hreduces, rfl, rfl⟩ := h
    have hbelow {inherited : Option Field} (hinherited : r.result = .program → inherited = none) {t : Tree}
        (ht : t ∈ nodesOf r.shape inherited 0 children) (hclean : t.info.faulty = false) :=
      apart_below hchildren hwidth hreduces (fun c hc => by
        obtain ⟨m, n, hfollows, hn⟩ := hchildren.exists_follows hreduces.ne_errorState c hc
        exact hfollows.leavesApart hn) hinherited ht hclean
    rw [nodes] at ht
    split at ht
    next kind hkind =>
      cases List.mem_singleton.1 ht
      have hfaulty : ∀ u ∈ nodesOf r.shape none 0 children, u.info.faulty = false := fun u hu =>
        Bool.eq_false_iff.2 (List.any_eq_false.1 (Bool.or_eq_false_iff.1 hclean).2 u hu)
      have hkind : kind.isComment = false := by
        cases alias? with
        | none => exact Grammar.Nonterminal.isComment_kind? hkind
        | some name =>
          cases hkind
          exact Kind.isComment_of_isName (halias kind rfl)
      refine ⟨.intro (fun u hu => ?_) fun u hu => ?_, fun hc => ?_⟩
      · exact (hbelow (fun _ => rfl) hu (hfaulty u hu)).2
      · exact (hbelow (fun _ => rfl) hu (hfaulty u hu)).1
      · rw [show kind.isComment = true from hc] at hkind
        cases hkind
    next hkind =>
      have hshown : r.result ≠ .program := by
        intro hr
        rw [Option.or_eq_none_iff, hr] at hkind
        cases hkind.2
      obtain ⟨hapart, hcomment⟩ := hbelow (fun hr => absurd hr hshown) ht hclean
      exact ⟨hapart, fun hk => (hcomment hk).imp_right .inl⟩
  | branch .error shape children span extra weight, a, b, h, _, alias?, field, _, t, ht, hclean => by
    obtain ⟨kind, hkind⟩ : ∃ kind, alias?.or Symbol.error.kind? = some kind := by cases alias? <;> exact ⟨_, rfl⟩
    rw [nodes, hkind] at ht
    cases List.mem_singleton.1 ht
    simp only [Tree.info, decide_eq_true h.2.2, Bool.true_or] at hclean
    cases hclean
  | branch .skipped _ _ _ _ _, _, _, h, hb, _, _, _, _, _, _ => absurd h.2 hb
  | branch (.terminal _) _ _ _ _ _, _, _, h, _, _, _, _, _, _, _ => h.elim
termination_by s => sizeOf s
decreasing_by
  have := List.sizeOf_lt_of_mem hc
  simp
  omega

end Subtree

/-! ## The tree of a source -/

/-- Comments hold nothing and play no part in the parse of a source, if it has no faults. -/
theorem setsApart_of_parse {source : List Char} {t : Tree} (h : parse source = some t)
    (hclean : t.info.faulty = false) : t.SetsApart := by
  have hleaves : ∀ u ∈ t.children, ∃ c : Subtree, c.LeavesApart none u := fun u hu => by
    obtain ⟨hfaulty, c, a, b, hfollows, hb, hu⟩ := (exists_part_of_parse h hclean).2 u hu
    exact ⟨c, hfollows.leavesApart hb none none nofun u hu hfaulty⟩
  refine .intro (fun u hu hk => ?_) fun u hu => ?_
  · obtain ⟨c, hc⟩ := hleaves u hu
    exact (hc.comment hk).imp_right fun h => h.elim id (·.1)
  · obtain ⟨c, hc⟩ := hleaves u hu
    exact hc.apart

end Bookmarklet.Script
