import Bookmarklet.Proofs.Script.Acceptance
import Bookmarklet.Proofs.Script.Redeclaration
import Bookmarklet.Proofs.Script.RenamedViolations

/-!
# Names that heads of loops declare

The head of a loop is a scope of the language: it must not declare a name twice with `let` or `const`, and no `var` may
leave the loop under a name of the head (`Tree.headDeclarations`).

The checker puts these names into no scope. A plan that changes them and no others (`Tree.onlyHeads`) leaves all names
that the checker collects as they are (`Tree.boundNames_heads`, `Tree.varNames_heads`), and with them every scope and
whatever else the walk reads (`Tree.keepsWalk_heads`). So a script is accepted or refused whatever its loops call their
variables (`Tree.programViolation?_heads`).
-/

namespace Bookmarklet.Script.Tree

open Plan

/-! ## Heads of loops -/

/-- The head of a loop declares a name with `let` or `const`. -/
inductive HeadDeclares : Tree → Binding → Prop
  | initializer {t i : Tree} {b : Binding} (hk : t.kind = .forStatement) (hi : t.part? .initializer = some i)
      (hl : i.kind = .lexicalDeclaration) (h : i.DeclaresLexically b) : HeadDeclares t b
  | left {t k : Tree} {n : List Char} (hk : t.kind = .forInStatement) (hp : t.part? .kind = some k)
      (hl : k.kind ≠ .token .kwVar) (h : t.BindsAt .left n) : HeadDeclares t ⟨n, false⟩

/-- The head of a loop declares a name with `let` or `const`, and behind it another one or the same once more. -/
inductive HeadDeclaresInOrder : Tree → Binding → Binding → Prop
  | initializer {t i : Tree} {a b : Binding} (hk : t.kind = .forStatement) (hi : t.part? .initializer = some i)
      (h : i.DeclaresInOrder a b) : HeadDeclaresInOrder t a b
  | left {t k : Tree} {m n : List Char} (hk : t.kind = .forInStatement) (hp : t.part? .kind = some k)
      (hl : k.kind ≠ .token .kwVar) (h : t.BindsAtInOrder .left m n) : HeadDeclaresInOrder t ⟨m, false⟩ ⟨n, false⟩

/-- What a loop declares: the names of its head, and with `var` what leaves its body. -/
def headDeclarations (t : Tree) : Declarations where
  strict := True
  lexical := t.HeadDeclares
  inOrder := t.HeadDeclaresInOrder
  isVar := HoistsVar (t.parts .body)

/-- The scope that the head of a loop would make, in the form in which the checker compares names. -/
def headScope (t : Tree) : Scope where
  lexical :=
    match t.kind with
    | .forStatement => (((t.part? .initializer).filter (·.kind = .lexicalDeclaration)).map Scope.lexicalOf).getD []
    | .forInStatement =>
      if (t.part? .kind).any (·.kind ≠ .token .kwVar) then (boundNamesAt .left t.children).map (⟨·, false⟩) else []
    | _ => []
  vars := varNamesIn (t.parts .body)

section HeadScope

variable {t : Tree} {n : List Char}

theorem mem_lexical_headScope {b : Binding} : b ∈ t.headScope.lexical ↔ t.HeadDeclares b := by
  rw [headScope]
  constructor
  · intro h
    split at h
    next hk =>
      cases hi : (t.part? .initializer).filter (·.kind = .lexicalDeclaration) with
      | none => simp [hi] at h
      | some i =>
        rw [hi, Option.map_some, Option.getD_some, mem_lexicalOf] at h
        obtain ⟨hi, hl⟩ := Option.filter_eq_some_iff.1 hi
        exact .initializer hk hi (of_decide_eq_true hl) h
    next hk =>
      split at h
      next hlet =>
        obtain ⟨k, hp, hl⟩ := (Option.any_eq_true _ _).1 hlet
        obtain ⟨n, hn, rfl⟩ := List.mem_map.1 h
        exact .left hk hp (of_decide_eq_true hl) (mem_boundNamesAt_iff_bindsAt.1 hn)
      next => cases h
    next => cases h
  · intro h
    cases h with
    | @initializer i b hk hi hl h => simpa [hk, hi, Option.filter_some, hl, mem_lexicalOf] using h
    | @left k n hk hp hl h => simpa [hk, hp, hl, mem_boundNamesAt_iff_bindsAt] using h

theorem pair_sublist_headScope {a b : Binding} : [a, b].Sublist t.headScope.lexical ↔ t.HeadDeclaresInOrder a b := by
  rw [headScope]
  constructor
  · intro h
    split at h
    next hk =>
      cases hi : (t.part? .initializer).filter (·.kind = .lexicalDeclaration) with
      | none => simp [hi] at h
      | some i =>
        rw [hi, Option.map_some, Option.getD_some, pair_sublist_lexicalOf] at h
        exact .initializer hk (Option.filter_eq_some_iff.1 hi).1 h
    next hk =>
      split at h
      next hlet =>
        obtain ⟨k, hp, hl⟩ := (Option.any_eq_true _ _).1 hlet
        obtain ⟨m, n, hs, rfl, rfl⟩ := pair_sublist_map.1 h
        exact .left hk hp (of_decide_eq_true hl) (pair_sublist_boundNamesAt_iff_bindsAtInOrder.1 hs)
      next => cases h
    next => cases h
  · intro h
    cases h with
    | @initializer i a b hk hi h =>
      have hl : i.kind = .lexicalDeclaration := by
        cases h with
        | pattern hk _ _ => exact hk
        | declarators hk _ _ _ => exact hk
      simpa [hk, hi, Option.filter_some, hl, pair_sublist_lexicalOf] using h
    | @left k m n hk hp hl h =>
      have hs : [m, n].Sublist (boundNamesAt .left t.children) := pair_sublist_boundNamesAt_iff_bindsAtInOrder.2 h
      have hs : [(⟨m, false⟩ : Binding), ⟨n, false⟩].Sublist ((boundNamesAt .left t.children).map (⟨·, false⟩)) :=
        pair_sublist_map.2 ⟨m, n, hs, rfl, rfl⟩
      simpa [hk, hp, hl] using hs

/-- The scope of a head lists what the loop declares. -/
theorem lists_headScope : t.headScope.Lists true t.headDeclarations where
  lexical _ := mem_lexical_headScope
  inOrder _ _ := pair_sublist_headScope
  vars _ := mem_varNamesIn
  strictness _ _ _ _ _ := iff_of_true rfl trivial

/-- The scope of a head clashes if and only if what the loop declares conflicts. -/
theorem headScope_clash?_eq_none_iff : t.headScope.clash? true = none ↔ ∀ n, ¬ t.headDeclarations.Conflicts n := by
  refine ⟨fun h _ => lists_headScope.not_conflicts h, fun h => ?_⟩
  cases hc : t.headScope.clash? true with
  | none => rfl
  | some n => exact absurd (lists_headScope.conflicts hc) (h n)

end HeadScope

/-- Whether a child is what the head of a loop declares with `let` or `const`. -/
def declaresInHead (parent child : Tree) : Bool :=
  match parent.kind with
  | .forStatement => child.info.field = some .initializer && child.kind = .lexicalDeclaration
  | .forInStatement => child.info.field = some .left && (parent.part? .kind).any (·.kind ≠ .token .kwVar)
  | _ => false

/-- Whether the names of a child are declared by a declaration or a pattern. -/
def declaresInPattern (parent child : Tree) : Bool :=
  match parent.kind with
  | .lexicalDeclaration | .objectPattern | .arrayPattern | .restPattern => true
  | .variableDeclarator => child.info.field = some .name
  | .pairPattern => child.info.field = some .value
  | .assignmentPattern | .objectAssignmentPattern => child.info.field = some .left
  | _ => false

/-- Whether a head declares the names of a child, given whether it declares those of the parent. -/
def declares (inHead : Bool) (parent child : Tree) : Bool :=
  parent.declaresInHead child || inHead && parent.declaresInPattern child

mutual
/-- Whether a plan changes no names in a tree but those that heads of loops declare; `inHead` tells that a head declares
the names of the tree. -/
def onlyHeads (plan : Plan) (inHead : Bool) : Tree → Bool
  | leaf info text => inHead || plan.respell info text = text
  | node info children => onlyHeadsIn plan (declares inHead (node info children)) children

/-- Whether a plan changes no other names in some trees. -/
def onlyHeadsIn (plan : Plan) (inHead : Tree → Bool) : List Tree → Bool
  | [] => true
  | t :: ts => t.onlyHeads plan (inHead t) && onlyHeadsIn plan inHead ts
end

section Heads

variable {plan : Plan} {t : Tree} {inHead : Bool}

theorem onlyHeads_child (h : t.onlyHeads plan inHead) : ∀ c ∈ t.children, c.onlyHeads plan (t.declares inHead c) := by
  have hin (inHead : Tree → Bool) (ts : List Tree) (h : onlyHeadsIn plan inHead ts) :
      ∀ c ∈ ts, c.onlyHeads plan (inHead c) := by
    induction ts with
    | nil => exact nofun
    | cons t ts ih =>
      rw [onlyHeadsIn, Bool.and_eq_true] at h
      exact List.forall_mem_cons.2 ⟨h.1, ih h.2⟩
  cases t with
  | leaf info text => exact nofun
  | node info children => exact hin _ children h

/-- A node other than a loop declares the names of its children in no head, unless a head declares its own. -/
theorem declares_of_ne {c : Tree} (hfor : t.kind ≠ .forStatement) (hin : t.kind ≠ .forInStatement) :
    t.declares false c = false := by
  rw [declares, Bool.false_and, Bool.or_false, declaresInHead]
  split
  · contradiction
  · contradiction
  · rfl

/-- A part of another kind than those that heads declare is in no head. -/
theorem declares_of_field {c : Tree} {field : Field} (hc : c.info.field = some field) (hi : field ≠ .initializer)
    (hl : field ≠ .left) : t.declares false c = false := by
  rw [declares, Bool.false_and, Bool.or_false, declaresInHead, hc]
  split <;> simp [hi, hl]

/-- The parts of a function are in no head. -/
theorem declares_of_isFunction {c : Tree} (hf : t.kind.isFunction) : t.declares inHead c = false := by
  rw [declares, declaresInHead, declaresInPattern]
  revert hf
  cases t.kind <;> simp [Kind.isFunction]

/-- Declarations with `var`, handlers, blocks and bodies of `switch` have no part in a head. -/
theorem declares_of_kind {c : Tree} (hk : t.kind = .variableDeclaration ∨ t.kind = .catchClause
    ∨ t.kind = .statementBlock ∨ t.kind = .switchBody) : t.declares inHead c = false := by
  rw [declares, declaresInHead, declaresInPattern]
  rcases hk with hk | hk | hk | hk <;> simp [hk]

/-! ## What the checker collects -/

theorem boundNamesAt_map_rename {field : Field} {ts : List Tree}
    (h : ∀ c ∈ ts, c.info.field = some field → (c.rename plan).boundNames = c.boundNames) :
    boundNamesAt field (ts.map (rename plan)) = boundNamesAt field ts := by
  rw [boundNamesAt_eq, boundNamesAt_eq, List.find?_map]
  simp only [Function.comp_def, info_rename]
  cases hc : ts.find? (·.info.field == some field) with
  | none => rfl
  | some c =>
    have hfield : c.info.field = some field := by simpa using List.find?_some hc
    simp only [Option.map_some, Option.getD_some, h c (List.mem_of_find?_eq_some hc) hfield]

/-- A pattern that no head declares binds the names that it did. -/
theorem boundNames_heads (t : Tree) : t.onlyHeads plan false → (t.rename plan).boundNames = t.boundNames := by
  induction t using induction_children with
  | step t ih =>
    intro h
    cases t with
    | leaf info text =>
      have hsame : plan.respell info text = text := by simpa [onlyHeads] using h
      rw [rename, hsame]
    | node info children =>
      have hbelow (hfor : info.kind ≠ .forStatement) (hin : info.kind ≠ .forInStatement) :
          ∀ c ∈ children, (c.rename plan).boundNames = c.boundNames := by
        intro c hc
        have hparts := onlyHeads_child h c hc
        rw [declares_of_ne (t := node info children) hfor hin] at hparts
        exact ih c hc hparts
      rw [rename, renameIn_eq_map]
      rcases boundNames_node info with ⟨hk, hnames⟩ | ⟨hk, hnames⟩ | ⟨hk, hnames⟩ | hnames
      · have hbelow := hbelow (by simp [hk]) (by simp [hk])
        rw [hnames, hnames, boundNamesAt_map_rename fun c hc _ => hbelow c hc]
      · have hbelow := hbelow (by rcases hk with hk | hk <;> simp [hk]) (by rcases hk with hk | hk <;> simp [hk])
        rw [hnames, hnames, boundNamesAt_map_rename fun c hc _ => hbelow c hc]
      · have hbelow := hbelow (by rcases hk with hk | hk | hk | hk <;> simp [hk])
          (by rcases hk with hk | hk | hk | hk <;> simp [hk])
        rw [hnames, hnames, boundNamesIn_eq, boundNamesIn_eq, List.flatMap_map, List.flatMap_congr hbelow]
      · rw [hnames, hnames]

theorem boundName_heads (h : t.onlyHeads plan false) :
    boundNamesAt .name (t.rename plan).children = boundNamesAt .name t.children := by
  rw [children_rename]
  refine boundNamesAt_map_rename fun c hc hf => boundNames_heads c ?_
  have hparts := onlyHeads_child h c hc
  rwa [declares_of_field hf (by decide) (by decide)] at hparts

theorem declaredNames_heads (h : ∀ c ∈ t.children, c.onlyHeads plan false) :
    (t.rename plan).declaredNames = t.declaredNames := by
  rw [declaredNames, children_rename, List.flatMap_map]
  exact List.flatMap_congr fun c hc => boundName_heads (h c hc)

/-- A statement declares with `var` what it did. -/
theorem ownVarNames_heads (h : t.onlyHeads plan inHead) : (t.rename plan).ownVarNames = t.ownVarNames := by
  have hparts := onlyHeads_child h
  rw [ownVarNames, ownVarNames, kind_rename, any_part?_rename t .kind (· = .token .kwVar)]
  split
  next hk =>
    refine declaredNames_heads fun c hc => ?_
    have hc := hparts c hc
    rwa [declares_of_kind (.inl hk)] at hc
  next hk =>
    split
    next hv =>
      rw [children_rename]
      refine boundNamesAt_map_rename fun c hc _ => boundNames_heads c ?_
      have hc := hparts c hc
      obtain ⟨k, hkind, hvar⟩ := (Option.any_eq_true _ _).1 hv
      rwa [declares, declaresInHead, declaresInPattern, hk, hkind, Bool.and_false, Bool.or_false, Option.any_some,
        decide_eq_false (not_not.2 (of_decide_eq_true hvar)), Bool.and_false] at hc
    next => rfl
  next => rfl

/-- What leaves a tree with `var` is what it was: a head that declares with `let` or `const` lets nothing out. -/
theorem varNames_heads (t : Tree) : ∀ {inHead : Bool}, t.onlyHeads plan inHead →
    (t.rename plan).varNames = t.varNames := by
  induction t using induction_children with
  | step t ih =>
    intro inHead h
    by_cases ho : t.kind.isFunction ∨ t.kind.isClass
    · cases t with
      | leaf info text => rfl
      | node info children =>
        rw [rename, varNames, varNames, if_pos (by rwa [Bool.or_eq_true]), if_pos (by rwa [Bool.or_eq_true])]
    · have hbelow : ∀ c ∈ t.children, (c.rename plan).varNames = c.varNames :=
        fun c hc => ih c hc (onlyHeads_child h c hc)
      rw [varNames_eq ho, varNames_eq (by rwa [kind_rename]), ownVarNames_heads h, varNamesIn_eq, varNamesIn_eq,
        children_rename, List.flatMap_map, List.flatMap_congr hbelow]

end Heads

/-! ## Scopes -/

section Statement

variable {plan : Plan} {t : Tree} (h : t.onlyHeads plan false)
include h

theorem lexicalNames_heads : (t.rename plan).lexicalNames = t.lexicalNames := by
  rw [lexicalNames, lexicalNames, kind_rename]
  split
  next hk =>
    refine declaredNames_heads fun c hc => ?_
    have hc := onlyHeads_child h c hc
    rwa [declares_of_ne (by simp [hk]) (by simp [hk])] at hc
  next => exact boundName_heads h
  next => rfl

theorem functionNames_heads : (t.rename plan).functionNames = t.functionNames := by
  rw [functionNames, functionNames, kind_rename, boundName_heads h]

/-- A statement declares the names that it did. -/
theorem declaresAs_heads (ht : t.Tidy) : t.DeclaresAs plan id := by
  refine ht.declaresAs ?_ ?_ ?_
  · rw [List.map_id, lexicalNames_heads h]
  · rw [List.map_id, functionNames_heads h]
  · rw [List.map_id, varNames_heads t h]

end Statement

/-! ## Offences -/

section Offences

variable {plan : Plan} {t : Tree} {inHead : Bool}

/-- What a pattern binds stays the same, in the form that scopes take it in. -/
theorem boundNames_heads_map (h : t.onlyHeads plan false) : (t.rename plan).boundNames = t.boundNames.map id := by
  rw [List.map_id, boundNames_heads t h]

variable (h : t.onlyHeads plan inHead)
include h

/-- What a handler catches is in no head. -/
theorem bindsAs_ownerOf (c : Tree) : (ownerOf t c).BindsAs plan id := by
  rw [ownerOf]
  split
  · trivial
  · split
    next hk =>
      intro p hp
      have hp := onlyHeads_child h p (mem_children_of_part? hp)
      rw [declares_of_kind (.inr (.inl hk))] at hp
      exact boundNames_heads_map hp
    next => trivial

variable (ht : t.Tidy)
include ht

/-- What the scope of a node declares stays the same. -/
theorem scopesAs_heads {owner : Owner} (ho : owner.BindsAs plan id) : t.ScopesAs plan id owner := by
  have hparts (hk : t.kind = .statementBlock ∨ t.kind = .switchBody) : ∀ s ∈ t.children, s.onlyHeads plan false := by
    intro s hs
    have hs := onlyHeads_child h s hs
    rwa [declares_of_kind (.inr (.inr hk))] at hs
  have hstatements (hk : t.kind = .statementBlock ∨ t.kind = .switchBody) : ∀ s ∈ t.children, s.DeclaresAs plan id :=
    fun s hs => declaresAs_heads (hparts hk s hs) (ht.child s hs)
  refine ⟨fun hf p hp => ?_, fun hf block hb s hs => ?_, fun hk => hstatements (.inl hk), fun _ => ho,
    fun hk => hstatements (.inr hk), fun hk u hu s hs => ?_⟩
  · have hp := onlyHeads_child h p (mem_children_of_parameters? hp)
    rw [declares_of_isFunction hf] at hp
    exact boundNames_heads_map hp
  · obtain ⟨hbody, hk⟩ := Option.filter_eq_some_iff.1 hb
    have hmem : block ∈ t.children := mem_children_of_part? hbody
    have hblock := onlyHeads_child h block hmem
    rw [declares_of_isFunction hf] at hblock
    have hs' := onlyHeads_child hblock s hs
    rw [declares_of_ne (by simp [of_decide_eq_true hk]) (by simp [of_decide_eq_true hk])] at hs'
    exact declaresAs_heads hs' ((ht.child block hmem).child s hs)
  · obtain ⟨hs, hf⟩ := List.mem_filter.1 hs
    have hs' := onlyHeads_child (hparts (.inr hk) u hu) s hs
    rw [declares_of_field (by simpa using hf) (by decide) (by decide)] at hs'
    exact declaresAs_heads hs' ((ht.child u hu).child s hs)

end Offences

/-- The walk reads tidy trees as it did, whatever their heads of loops declare. -/
theorem keepsWalk_heads {plan : Plan} : KeepsWalk (rename plan) (fun _ => true) id fun _ owner t =>
    t.Tidy ∧ (∃ inHead, t.onlyHeads plan inHead) ∧ owner.BindsAs plan id where
  reads := by
    rintro c owner t ⟨ht, ⟨inHead, h⟩, ho⟩
    refine ht.readsAs_rename fun strict => ?_
    rw [(scopesAs_heads h ht ho).ownScope?_rename]
    cases t.ownScope? owner with
    | none => rfl
    | some scope => rw [Option.map_some, Scope.map_id]
  context h := h.1.contextBelow_rename _
  children _ := by rw [children_rename, List.filter_true]
  owner _ u _ := ownerOf_rename _ u
  leftOut _ _ _ h := by cases h
  below := by
    rintro c owner t ⟨ht, ⟨inHead, h⟩, -⟩ u hu
    exact ⟨ht.child u hu, ⟨_, onlyHeads_child h u hu⟩, bindsAs_ownerOf h u⟩

/-- Names that heads of loops declare make no offence and hide none: whatever a plan changes them to, a script commits
the offence that it did. -/
theorem programViolation?_heads {source : List Char} {t : Tree} {plan : Plan} (h : parse source = some t)
    (hclean : t.info.faulty = false) (hp : t.onlyHeads plan false) :
    (t.rename plan).programViolation? = t.programViolation? := by
  obtain ⟨ht, hk⟩ := tidy_of_parse h hclean
  have hstatements : ∀ s ∈ t.children, s.onlyHeads plan false := fun s hs => by
    have hs := onlyHeads_child hp s hs
    rwa [declares_of_ne (by simp [hk]) (by simp [hk])] at hs
  have hdeclares : ∀ s ∈ t.children, s.DeclaresAs plan id := fun s hs =>
    declaresAs_heads (hstatements s hs) (ht.child s hs)
  have hnone : ∀ p ∈ (none : Option Tree), (p.rename plan).boundNames = p.boundNames.map id := nofun
  have hscope : Scope.ofFunction none (t.children.map (rename plan)) = (Scope.ofFunction none t.children).map id :=
    ofFunction_rename hdeclares hnone
  have hwalk := keepsWalk_heads.programViolation?_map (t := t) (by rw [children_rename, List.filter_true])
    (by rw [children_rename, hscope, Scope.map_id]) (by rw [children_rename, areStrict_rename ht.child]) nofun
    fun u hu => ⟨ht.child u hu, ⟨false, hstatements u hu⟩, trivial⟩
  rwa [Option.map_id, id, id] at hwalk

/-- A `var` in the body may come to share the name of the head. -/
theorem programViolation?_heads_shared : ∃ t, check "for (let i = 0;;) \x7b var j \x7d".toList = .ok t
    ∧ (∃ around loop, Within (t.rename [(9, "j".toList)]) around loop ∧ loop.headDeclarations.Conflicts "j".toList)
    ∧ (t.rename [(9, "j".toList)]).programViolation? = none := by
  have h : (check "for (let i = 0;;) \x7b var j \x7d".toList).toOption.any (fun t =>
      t.onlyHeads [(9, "j".toList)] false && (t.rename [(9, "j".toList)]).sitesBelow.any fun s =>
        s.2.headScope.clash? true = some "j".toList) = true := by decide +kernel
  obtain ⟨t, ht, hall⟩ := exists_of_any_check h
  simp only [Bool.and_eq_true, List.any_eq_true, decide_eq_true_eq] at hall
  obtain ⟨hplan, s, hs, hclash⟩ := hall
  obtain ⟨hclean, hnone⟩ := check_eq_ok_iff_clean.1 ht
  refine ⟨t, ht, ⟨s.1, s.2, mem_sitesBelow.1 hs, lists_headScope.conflicts hclash⟩, ?_⟩
  rw [programViolation?_heads hclean.parse hclean.faulty hplan, hnone]

/-- An accepted script may declare a name twice in the head of a loop, and once more with `var` in its body. -/
theorem not_forall_not_conflicts_headDeclarations :
    ¬ ∀ (source : List Char) (t : Tree), check source = .ok t → ∀ around loop, Within t around loop →
      loop.kind = .forStatement ∨ loop.kind = .forInStatement → ∀ n, ¬ loop.headDeclarations.Conflicts n := by
  intro hall
  have h : (check "for (let i = 0, i = 1;;) \x7b var i \x7d".toList).toOption.any (fun t =>
      t.sitesBelow.any fun s => s.2.kind = .forStatement && (s.2.headScope.clash? true).isSome) = true := by
    decide +kernel
  obtain ⟨t, ht, hclash⟩ := exists_of_any_check h
  simp only [List.any_eq_true, Bool.and_eq_true, decide_eq_true_eq] at hclash
  obtain ⟨s, hs, hk, hclash⟩ := hclash
  have hnone := headScope_clash?_eq_none_iff.2 (hall _ t ht s.1 s.2 (mem_sitesBelow.1 hs) (.inl hk))
  rw [hnone] at hclash
  cases hclash

end Bookmarklet.Script.Tree
