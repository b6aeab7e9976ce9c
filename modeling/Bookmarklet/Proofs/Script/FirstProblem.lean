import Bookmarklet.Proofs.Script.Acceptance
import Bookmarklet.Proofs.Script.Surroundings
import Bookmarklet.Proofs.Script.Tidy
import Bookmarklet.Proofs.Text.Words

/-!
# The first problem of a script

A node is a problem if it is an error or a token that the source lacks (`Tree.IsProblem`), and there is one report of
each problem (`Tree.Reports`). The checker looks for problems from the root down and passes by what is not marked as
faulty. Wherever no mark is lacking (`Tree.Marked`), it finds what a walk over all nodes in document order finds
(`Tree.firstProblem?_eq`).

So a tree in which exactly those nodes are marked that contain a problem is refused for the first one, if the root is
marked (`Tree.refusal?_of_marksProblems`). A parse lacks no mark (`marked_of_parse`), but a mark may be there for a
terminator that recovery inserted, which leaves no node. A faulty parse is therefore refused for the first problem that
it shows; one that shows none, as if the source ended too early (`check_of_faulty`).
-/

namespace Bookmarklet.Script

namespace Tree

/-! ## Document order -/

/-- The nodes of a tree in document order, each before what it contains. -/
def preorder (t : Tree) : List Tree := (t.sites []).map (·.2)

section Preorder

variable {t c d : Tree}

theorem map_sites (t : Tree) : ∀ around : List Tree, (t.sites around).map (·.2) = t.preorder := by
  induction t using induction_children with
  | step t ih =>
    intro around
    have hbelow : ∀ outer : List Tree, (t.children.flatMap (·.sites outer)).map (·.2) = t.children.flatMap preorder := by
      intro outer
      rw [List.map_flatMap]
      exact List.flatMap_congr fun c hc => ih c hc outer
    rw [preorder, sites_eq, sites_eq, List.map_cons, List.map_cons, hbelow, hbelow]

theorem preorder_eq (t : Tree) : t.preorder = t :: t.children.flatMap preorder := by
  rw [preorder, sites_eq, List.map_cons, List.map_flatMap]
  exact congrArg (t :: ·) (List.flatMap_congr fun c _ => c.map_sites _)

theorem mem_preorder : d ∈ t.preorder ↔ d = t ∨ ∃ c ∈ t.children, d ∈ c.preorder := by
  rw [preorder_eq, List.mem_cons, List.mem_flatMap]

theorem mem_preorder_self (t : Tree) : t ∈ t.preorder := mem_preorder.2 (.inl rfl)

theorem mem_preorder_of_child (hc : c ∈ t.children) (hd : d ∈ c.preorder) : d ∈ t.preorder :=
  mem_preorder.2 (.inr ⟨c, hc, hd⟩)

/-- The first node without children is the leaf that is reached by always going to the first child. -/
theorem exists_find?_preorder (t : Tree) :
    ∃ u, t.preorder.find? (·.children.isEmpty) = some u ∧ u.text = t.firstLeafText := by
  induction t using induction_children with
  | step t ih =>
    cases t with
    | leaf info text => exact ⟨leaf info text, rfl, rfl⟩
    | node info children =>
      cases children with
      | nil => exact ⟨node info [], rfl, rfl⟩
      | cons c cs =>
        obtain ⟨u, hu, htext⟩ := ih c List.mem_cons_self
        refine ⟨u, ?_, htext⟩
        rw [preorder_eq, List.find?_cons_of_neg (by simp [children]), children, List.flatMap_cons, List.find?_append, hu,
          Option.some_or]

end Preorder

/-! ## Problems and their reports -/

/-- A node that is an error or stands for a token that the source lacks. -/
def IsProblem (t : Tree) : Prop := t.info.missing ∨ t.kind = .error

instance : DecidablePred IsProblem := fun t => inferInstanceAs (Decidable (t.info.missing ∨ t.kind = .error))

/-- The text that a message quotes from: that of the first node without children or, where this has none, of the whole
tree. -/
def quotedText (t : Tree) : List Char :=
  let first := ((t.preorder.find? (·.children.isEmpty)).map text).getD []
  if first = [] then t.text else first

/-- The token that a message quotes. -/
def quotedToken (t : Tree) : List Char := (Text.leadingWord t.quotedText).take 24

/-- What is said of a problem. Lines and columns count from one. -/
inductive Reports (t : Tree) : SyntaxError → Prop
  | missing (hm : t.info.missing) :
      Reports t (.missingToken t.kind.name (t.start.line + 1) (t.start.column + 1))
  | unexpected (hm : t.info.missing = false) (hk : t.kind = .error) (hne : t.quotedToken ≠ []) :
      Reports t (.unexpectedToken t.quotedToken (t.start.line + 1) (t.start.column + 1))
  | ended (hm : t.info.missing = false) (hk : t.kind = .error) (hnil : t.quotedToken = []) : Reports t .unexpectedEnd

/-- A node is the first problem of a tree in document order. -/
def IsFirstProblem (t u : Tree) : Prop :=
  u.IsProblem ∧ ∃ before after, t.preorder = before ++ u :: after ∧ ∀ d ∈ before, ¬ d.IsProblem

section Reports

variable {t : Tree} {e : SyntaxError}

theorem excerpt_eq (t : Tree) : t.excerpt = t.quotedToken := by
  obtain ⟨u, hu, htext⟩ := t.exists_find?_preorder
  have hquoted : (if t.firstLeafText.isEmpty then t.text else t.firstLeafText) = t.quotedText := by
    simp [quotedText, hu, htext]
  rw [excerpt, hquoted, Text.headD_words]
  rfl

/-- A quoted token is short, and no blank is in it. -/
theorem Reports.quoted {token : List Char} {line column : Nat} (h : t.Reports (.unexpectedToken token line column)) :
    token.length ≤ 24 ∧ ∀ c ∈ token, Text.isBlank c = false := by
  cases h with
  | unexpected hm hk hne =>
    exact ⟨List.length_take_le 24 _, fun c hc => Text.isBlank_of_mem_leadingWord (List.mem_of_mem_take hc)⟩

theorem ownProblem?_eq_some_iff : t.ownProblem? = some e ↔ t.Reports e := by
  unfold ownProblem?
  rw [excerpt_eq]
  constructor
  · intro h
    split at h
    next hm =>
      cases h
      exact .missing hm
    next hm =>
      have hm := Bool.eq_false_iff.2 hm
      split at h
      next hk =>
        split at h
        next hnil =>
          cases h
          exact .ended hm hk (List.isEmpty_iff.1 hnil)
        next hne =>
          cases h
          exact .unexpected hm hk fun hnil => hne (List.isEmpty_iff.2 hnil)
      next => cases h
  · intro h
    cases h with
    | missing hm => rw [if_pos hm]
    | unexpected hm hk hne => simp [hm, hk, hne, SyntaxError.unexpectedAt]
    | ended hm hk hnil => simp [hm, hk, hnil]

theorem ownProblem?_eq_none_iff : t.ownProblem? = none ↔ ¬ t.IsProblem := by
  unfold ownProblem? IsProblem
  split
  next hm => simp [hm]
  next hm =>
    split
    next hk => simp [hk]
    next hk => simp [hm, hk]

end Reports

/-! ## The search -/

/-- No mark is lacking: a problem is marked as faulty, and so is what contains a marked node. What stands in an error is
not searched, and need not be marked. -/
inductive Marked : Tree → Prop
  | problem {t : Tree} (h : t.IsProblem) (hf : t.info.faulty) : Marked t
  | inner {t : Tree} (h : ¬ t.IsProblem) (below : ∀ c ∈ t.children, Marked c)
      (hf : ∀ c ∈ t.children, c.info.faulty → t.info.faulty) : Marked t

theorem Marked.faulty {t : Tree} (h : t.Marked) (hp : ∃ d ∈ t.preorder, d.IsProblem) : t.info.faulty := by
  induction h with
  | problem _ hf => exact hf
  | inner h _ hf ih =>
    obtain ⟨d, hd, hp⟩ := hp
    rcases mem_preorder.1 hd with rfl | ⟨c, hc, hd⟩
    · exact absurd hp h
    · exact hf c hc (ih c hc ⟨d, hd, hp⟩)

/-- A node is looked at before what it contains. -/
theorem firstProblem?_eq_or (t : Tree) : t.firstProblem? = t.ownProblem?.or (firstProblemIn? t.children) := by
  cases t with
  | leaf info text => rw [firstProblem?, children, firstProblemIn?, Option.or_none]
  | node info children => rw [firstProblem?, Tree.children]

/-- What is passed by contains no problem, since it would be marked. -/
theorem firstProblemIn?_eq {ts : List Tree} (hmarked : ∀ c ∈ ts, c.Marked)
    (hsearch : ∀ c ∈ ts, c.firstProblem? = c.preorder.findSome? ownProblem?) :
    firstProblemIn? ts = (ts.flatMap preorder).findSome? ownProblem? := by
  induction ts with
  | nil => rfl
  | cons c cs ih =>
    rw [firstProblemIn?, List.flatMap_cons, List.findSome?_append,
      ih (fun d hd => hmarked d (List.mem_cons_of_mem c hd)) fun d hd => hsearch d (List.mem_cons_of_mem c hd)]
    split
    next => rw [hsearch c List.mem_cons_self]
    next hclean =>
      have hnone : c.preorder.findSome? ownProblem? = none := by
        refine List.findSome?_eq_none_iff.2 fun d hd => ownProblem?_eq_none_iff.2 fun hp => hclean ?_
        rw [(hmarked c List.mem_cons_self).faulty ⟨d, hd, hp⟩, Bool.true_or]
      rw [hnone, Option.none_or]

/-- Where no mark is lacking, the search finds what a walk over all nodes finds. -/
theorem firstProblem?_eq {t : Tree} (h : t.Marked) : t.firstProblem? = t.preorder.findSome? ownProblem? := by
  induction h with
  | @problem t h _ =>
    obtain ⟨e, he⟩ := Option.ne_none_iff_exists'.1 (mt ownProblem?_eq_none_iff.1 (not_not.2 h))
    rw [firstProblem?_eq_or, preorder_eq, List.findSome?_cons, he, Option.some_or]
  | @inner t _ below _ ih =>
    rw [firstProblem?_eq_or, firstProblemIn?_eq below ih, preorder_eq, List.findSome?_cons]
    cases t.ownProblem? <;> rfl

/-- What is found is the first problem, if there is any. -/
theorem exists_firstProblem {t : Tree} (h : t.Marked) (hp : ∃ d ∈ t.preorder, d.IsProblem) :
    ∃ u e, t.IsFirstProblem u ∧ u.Reports e ∧ t.firstProblem? = some e := by
  have hsome : t.firstProblem? ≠ none := by
    rw [firstProblem?_eq h, Ne, List.findSome?_eq_none_iff]
    obtain ⟨d, hd, hp⟩ := hp
    exact fun hnone => ownProblem?_eq_none_iff.1 (hnone d hd) hp
  obtain ⟨e, he⟩ := Option.ne_none_iff_exists'.1 hsome
  rw [firstProblem?_eq h] at he
  obtain ⟨before, u, after, horder, hown, hbefore⟩ := List.findSome?_eq_some_iff.1 he
  have hu : u.IsProblem := by
    by_contra hu
    rw [ownProblem?_eq_none_iff.2 hu] at hown
    cases hown
  exact ⟨u, e, ⟨hu, before, after, horder, fun d hd => ownProblem?_eq_none_iff.1 (hbefore d hd)⟩,
    ownProblem?_eq_some_iff.1 hown, (firstProblem?_eq h).trans he⟩

/-! ## Trees whose marks tell where problems are -/

/-- A node is marked as faulty if and only if it is a problem or contains one. -/
def MarksProblems (t : Tree) : Prop := ∀ u ∈ t.preorder, u.info.faulty ↔ ∃ d ∈ u.preorder, d.IsProblem

instance (t : Tree) : Decidable t.MarksProblems :=
  inferInstanceAs (Decidable (∀ u ∈ t.preorder, u.info.faulty ↔ ∃ d ∈ u.preorder, d.IsProblem))

theorem MarksProblems.marked {t : Tree} : t.MarksProblems → t.Marked := by
  induction t using induction_children with
  | step t ih =>
    intro h
    have hroot := h t t.mem_preorder_self
    by_cases hp : t.IsProblem
    · exact .problem hp (hroot.2 ⟨t, t.mem_preorder_self, hp⟩)
    · refine .inner hp (fun c hc => ih c hc fun u hu => h u (mem_preorder_of_child hc hu)) fun c hc hf => hroot.2 ?_
      obtain ⟨d, hd, hp⟩ := (h c (mem_preorder_of_child hc c.mem_preorder_self)).1 hf
      exact ⟨d, mem_preorder_of_child hc hd, hp⟩

/-- A tree whose marks tell where problems are is refused for its first problem if the root is marked, and the token that
is quoted of that is short and has no blanks. -/
theorem refusal?_of_marksProblems {t : Tree} (hmarks : t.MarksProblems) (hfaulty : t.info.faulty) :
    ∃ u e, t.IsFirstProblem u ∧ u.Reports e ∧ t.firstProblem? = some e ∧ t.refusal? = some e
      ∧ (∀ source, parse source = some t → check source = .error e)
      ∧ ∀ token line column, e = .unexpectedToken token line column →
        token.length ≤ 24 ∧ ∀ c ∈ token, Text.isBlank c = false := by
  obtain ⟨u, e, hfirst, hreports, he⟩ :=
    exists_firstProblem hmarks.marked ((hmarks t t.mem_preorder_self).1 hfaulty)
  have hrefusal : t.refusal? = some e := by rw [refusal?, if_pos hfaulty, he, Option.getD_some]
  refine ⟨u, e, hfirst, hreports, he, hrefusal, fun source hsource => check_eq_error hsource hrefusal, ?_⟩
  rintro token line column rfl
  exact hreports.quoted

/-- A script with two problems, of which the first is a token that is missing deep in an array. -/
theorem refusal?_of_marksProblems_array : ∃ t u e,
    parse "f(); x = [1, (2];\nvar = 3".toList = some t ∧ t.MarksProblems ∧ t.info.faulty
      ∧ t.preorder.countP (·.IsProblem) = 2 ∧ t.IsFirstProblem u ∧ u.Reports e ∧ t.refusal? = some e
      ∧ e = .missingToken ")" 1 16 := by
  have h : (parse "f(); x = [1, (2];\nvar = 3".toList).any (fun t => t.MarksProblems && t.info.faulty
      && t.preorder.countP (·.IsProblem) = 2 && t.refusal? = some (.missingToken ")" 1 16)) = true := by decide +kernel
  obtain ⟨t, ht, hall⟩ := (Option.any_eq_true _ _).1 h
  simp only [Bool.and_eq_true, decide_eq_true_eq] at hall
  obtain ⟨⟨⟨hmarks, hfaulty⟩, hcount⟩, hmissing⟩ := hall
  obtain ⟨u, e, hfirst, hreports, -, hrefusal, -⟩ := refusal?_of_marksProblems hmarks hfaulty
  exact ⟨t, u, e, ht, hmarks, hfaulty, hcount, hfirst, hreports, hrefusal,
    Option.some.inj (hrefusal.symm.trans hmissing)⟩

end Tree

/-! ## The marks of a parse -/

theorem Terminal.kind?_ne_error (t : Terminal) : t.kind? ≠ some .error := by
  intro h
  cases t <;> cases h

theorem Grammar.Nonterminal.kind?_ne_error (n : Grammar.Nonterminal) : n.kind? ≠ some .error := by
  intro h
  cases n <;> cases h

theorem Leaf.kind?_ne_error {l : Leaf} {t : Terminal} (h : l.symbol = .terminal t) : l.kind? ≠ some .error := by
  cases l with
  | mark t => exact nofun
  | stray text => cases h
  | token t first more => exact t.kind?_ne_error
  | missing t => exact t.kind?_ne_error
  | hollow t => exact t.kind?_ne_error

theorem Leaf.isFaulty_of_isMissing {l : Leaf} (h : l.isMissing) : l.isFaulty := by
  cases l with
  | missing t => rfl
  | _ => cases h

namespace Subtree

/-- A name given to a part does not make an error of it. -/
theorem ne_error_of_shown {alias? own? : Option Kind} {kind : Kind} (halias : ∀ k ∈ alias?, k.isName)
    (hown : own? ≠ some .error) (h : alias?.or own? = some kind) : kind ≠ .error := by
  rintro rfl
  cases alias? with
  | none => exact hown h
  | some name =>
    cases h
    cases halias .error rfl

theorem marked_leaf {l : Leaf} {t : Terminal} (ht : l.symbol = .terminal t) {span : Span} {extra : Bool}
    {alias? : Option Kind} (halias : ∀ k ∈ alias?, k.isName) (field : Option Field) :
    ∀ t ∈ (leaf l span extra).nodes alias? field, t.Marked := by
  intro t hmem
  rw [nodes] at hmem
  split at hmem
  next kind hkind =>
    cases List.mem_singleton.1 hmem
    split at hkind
    next =>
      have hne : kind ≠ .error := ne_error_of_shown halias (Leaf.kind?_ne_error ht) hkind
      cases hm : l.isMissing with
      | true => exact .problem (.inl rfl) (Leaf.isFaulty_of_isMissing hm)
      | false =>
        refine .inner (fun h => h.elim Bool.false_ne_true hne) (fun c hc => ?_) fun c hc => ?_
        · exact absurd hc List.not_mem_nil
        · exact absurd hc List.not_mem_nil
    next => cases hkind
  next => cases hmem

/-- What a part leaves that follows the table lacks no mark. Errors, which the table does not know, are marked by what
they cost. -/
theorem Follows.marked : ∀ {s : Subtree} {a b : Nat}, s.Follows a b → b ≠ Grammar.errorState →
    ∀ (alias? : Option Kind) (field : Option Field), (∀ k ∈ alias?, k.isName) → (s.extra → alias? = none) →
    ∀ t ∈ s.nodes alias? field, t.Marked
  | leaf l span extra, a, b, h, _, alias?, field, halias, _, t, ht => by
    obtain ⟨terminal, hterminal⟩ : ∃ terminal, l.symbol = .terminal terminal := by
      rw [Follows] at h
      split at h
      · exact h.2.imp fun _ h => h.1
      · exact h.2.imp fun _ h => h.1
    exact marked_leaf hterminal halias field t ht
  | branch (.construct n) shape children span extra weight, a, b, h, _, alias?, field, halias, _, t, ht => by
    obtain ⟨rfl, rfl, top, r, hchildren, -, hreduces, rfl, rfl⟩ := h
    have hnone : ∀ k ∈ (none : Option Kind), k.isName := fun k hk => absurd hk (Option.not_mem_none k)
    have hbelow {inherited : Option Field} : ∀ u ∈ nodesOf r.shape inherited 0 children, u.Marked := by
      intro u hu
      rcases exists_of_mem_nodesOf hu with ⟨c, hc, -, hu⟩ | ⟨i, c, hi, hu⟩
      · obtain ⟨m, n, hfollows, hn⟩ := hchildren.exists_follows hreduces.ne_errorState c hc
        exact hfollows.marked hn none none hnone (fun _ => rfl) u hu
      · have hc := List.mem_of_getElem? hi
        obtain ⟨m, n, hfollows, hn⟩ :=
          hchildren.exists_follows hreduces.ne_errorState c (List.mem_of_mem_filter hc)
        refine hfollows.marked hn _ _ (fun k hk => ?_) (fun he => ?_) u hu
        · exact Grammar.isName_alias (Grammar.isClear_of_reduces hreduces) hk
        · simp [ownParts, he] at hc
    rw [nodes] at ht
    split at ht
    next kind hkind =>
      cases List.mem_singleton.1 ht
      have hne : kind ≠ .error := ne_error_of_shown halias r.result.kind?_ne_error hkind
      refine .inner (fun h => h.elim Bool.false_ne_true hne) hbelow fun u hu hf => ?_
      exact Bool.or_eq_true_iff.2 (.inr (List.any_eq_true.2 ⟨u, hu, hf⟩))
    next => exact hbelow t ht
  | branch .error shape children span extra weight, a, b, h, _, alias?, field, _, hextra, t, ht => by
    rw [hextra h.1, nodes] at ht
    cases List.mem_singleton.1 ht
    exact .problem (.inr rfl) (Bool.or_eq_true_iff.2 (.inl (decide_eq_true h.2.2)))
  | branch .skipped _ _ _ _ _, _, _, h, hb, _, _, _, _, _, _ => absurd h.2 hb
  | branch (.terminal _) _ _ _ _ _, _, _, h, _, _, _, _, _, _, _ => h.elim
termination_by s => sizeOf s
decreasing_by
  · have := List.sizeOf_lt_of_mem hc
    simp
    omega
  · have := List.sizeOf_lt_of_mem (List.mem_of_mem_filter hc)
    simp
    omega

end Subtree

/-- The parse of a source lacks no mark. -/
theorem marked_of_parse {source : List Char} {t : Tree} (h : parse source = some t) : t.Marked := by
  rcases root_of_parse h with ⟨hk, hf⟩ | ⟨hk, hm, hparts⟩
  · exact .problem (.inr hk) hf
  · refine .inner (fun hp => ?_) (fun u hu => ?_) fun u hu => (hparts u hu).1
    · rcases hp with hp | hp
      · rw [hm] at hp
        cases hp
      · rw [hk] at hp
        cases hp
    · obtain ⟨-, c, a, b, hfollows, hb, hu⟩ := hparts u hu
      exact hfollows.marked hb none none nofun (fun _ => rfl) u hu

/-- A source with a faulty parse is refused for the first problem that shows in it. If none shows, it is refused as if it
ended too early. -/
theorem check_of_faulty {source : List Char} {t : Tree} (h : parse source = some t) (hfaulty : t.info.faulty) :
    (∃ u e, t.IsFirstProblem u ∧ u.Reports e ∧ check source = .error e)
      ∨ (∀ u ∈ t.preorder, ¬ u.IsProblem) ∧ check source = .error .unexpectedEnd := by
  have hmarked := marked_of_parse h
  have hrefusal : t.refusal? = some (t.firstProblem?.getD .unexpectedEnd) := if_pos hfaulty
  by_cases hp : ∃ d ∈ t.preorder, d.IsProblem
  · obtain ⟨u, e, hfirst, hreports, he⟩ := Tree.exists_firstProblem hmarked hp
    rw [he] at hrefusal
    exact .inl ⟨u, e, hfirst, hreports, check_eq_error h hrefusal⟩
  · have hclear : ∀ u ∈ t.preorder, ¬ u.IsProblem := fun u hu hu' => hp ⟨u, hu, hu'⟩
    have hnone : t.firstProblem? = none := by
      rw [Tree.firstProblem?_eq hmarked, List.findSome?_eq_none_iff]
      exact fun u hu => Tree.ownProblem?_eq_none_iff.2 (hclear u hu)
    rw [hnone] at hrefusal
    exact .inr ⟨hclear, check_eq_error h hrefusal⟩

/-- A faulty parse may show no problem: here the first of the two expressions ends with a terminator that the source
lacks. -/
theorem not_forall_faulty_shows :
    ¬ ∀ (source : List Char) (t : Tree), parse source = some t → t.info.faulty → ∃ u ∈ t.preorder, u.IsProblem := by
  intro hall
  have h : (parse "if (a) if (a) if (a) b else c".toList).any
      (fun t => t.info.faulty && t.preorder.all (¬ ·.IsProblem)) = true := by decide +kernel
  obtain ⟨t, ht, htest⟩ := (Option.any_eq_true _ _).1 h
  obtain ⟨hfaulty, hclear⟩ := Bool.and_eq_true_iff.1 htest
  obtain ⟨u, hu, hp⟩ := hall _ t ht hfaulty
  exact of_decide_eq_true (List.all_eq_true.1 hclear u hu) hp

end Bookmarklet.Script
