import Bookmarklet.Proofs.Script.Scope

/-!
# What statements declare

What patterns bind and statements declare is told here by relations on trees, apart from the lists of names that the
checker collects: `Tree.Binds` for patterns, `Tree.HoistsVar` for `var`, and `Tree.DeclaresLexically` and
`Tree.DeclaresInBlock` for the rest. A name may be declared more than once, so there are relations for two declarations
one behind the other too (`Tree.BindsInOrder`, `Tree.DeclaresInOrder`, `Tree.DeclareInOrder`).

The lists hold the names that these relations tell (`Tree.mem_boundNames`, `Tree.mem_varNamesIn`,
`Tree.mem_flatMap_lexicalOf`, `Tree.mem_flatMap_lexicalInBlock`), each as often and in the order in which it is declared:
two members of a list one behind the other are two such declarations (`Tree.pair_sublist_boundNames`,
`Tree.pair_sublist_flatMap_lexicalOf`, `Tree.pair_sublist_flatMap_lexicalInBlock`).
-/

namespace Bookmarklet.Script

/-! ## One behind the other -/

section Pairs

variable {α β : Type} {a b : α}

theorem pair_sublist_cons {x : α} {xs : List α} :
    [a, b].Sublist (x :: xs) ↔ (a = x ∧ b ∈ xs) ∨ [a, b].Sublist xs := by
  rw [List.sublist_cons_iff, or_comm]
  refine or_congr_left ⟨?_, ?_⟩
  · rintro ⟨ys, heq, hs⟩
    obtain ⟨rfl, rfl⟩ := List.cons.inj heq
    exact ⟨rfl, List.singleton_sublist.1 hs⟩
  · rintro ⟨rfl, hb⟩
    exact ⟨[b], rfl, List.singleton_sublist.2 hb⟩

/-- Two members of a list come one behind the other in its first part, in both parts or in the second one. -/
theorem pair_sublist_append {xs ys : List α} :
    [a, b].Sublist (xs ++ ys) ↔ [a, b].Sublist xs ∨ (a ∈ xs ∧ b ∈ ys) ∨ [a, b].Sublist ys := by
  induction xs with
  | nil => simp
  | cons x xs ih =>
    simp only [List.cons_append, pair_sublist_cons, ih, List.mem_append, List.mem_cons, and_or_left, or_and_right,
      or_assoc, or_left_comm]

theorem pair_sublist_map {f : β → α} {xs : List β} :
    [a, b].Sublist (xs.map f) ↔ ∃ x y, [x, y].Sublist xs ∧ f x = a ∧ f y = b := by
  rw [List.sublist_map_iff]
  constructor
  · rintro ⟨ys, hs, heq⟩
    match ys, heq with
    | [x, y], heq =>
      obtain ⟨ha, hb⟩ := List.cons.inj heq
      exact ⟨x, y, hs, ha.symm, (List.cons.inj hb).1.symm⟩
  · rintro ⟨x, y, hs, rfl, rfl⟩
    exact ⟨[x, y], hs, rfl⟩

/-- Two members of joined lists come from one of them, or from two that come one behind the other. -/
theorem pair_sublist_flatMap {f : β → List α} {xs : List β} : [a, b].Sublist (xs.flatMap f) ↔
    (∃ x ∈ xs, [a, b].Sublist (f x)) ∨ ∃ x y, [x, y].Sublist xs ∧ a ∈ f x ∧ b ∈ f y := by
  induction xs with
  | nil => simp
  | cons x xs ih =>
    rw [List.flatMap_cons, pair_sublist_append, ih, List.mem_flatMap]
    constructor
    · rintro (h | ⟨ha, y, hy, hb⟩ | ⟨y, hy, h⟩ | ⟨y, z, hs, ha, hb⟩)
      · exact .inl ⟨x, List.mem_cons_self, h⟩
      · exact .inr ⟨x, y, pair_sublist_cons.2 (.inl ⟨rfl, hy⟩), ha, hb⟩
      · exact .inl ⟨y, List.mem_cons_of_mem x hy, h⟩
      · exact .inr ⟨y, z, hs.cons x, ha, hb⟩
    · rintro (⟨y, hy, h⟩ | ⟨y, z, hs, ha, hb⟩)
      · rcases List.mem_cons.1 hy with rfl | hy
        · exact .inl h
        · exact .inr (.inr (.inl ⟨y, hy, h⟩))
      · rcases pair_sublist_cons.1 hs with ⟨rfl, hz⟩ | hs
        · exact .inr (.inl ⟨ha, z, hz, hb⟩)
        · exact .inr (.inr (.inr ⟨y, z, hs, ha, hb⟩))

end Pairs

namespace Tree

/-! ## Patterns -/

/-- A pattern or a parameter list binds a name. -/
inductive Binds : Tree → List Char → Prop
  | name {info : Info} {text : List Char}
      (hk : info.kind = .identifier ∨ info.kind = .shorthandPropertyIdentifierPattern) : Binds (leaf info text) text
  | value {t part : Tree} {n : List Char} (hk : t.kind = .pairPattern) (hp : t.part? .value = some part)
      (h : Binds part n) : Binds t n
  | target {t part : Tree} {n : List Char} (hk : t.kind = .assignmentPattern ∨ t.kind = .objectAssignmentPattern)
      (hp : t.part? .left = some part) (h : Binds part n) : Binds t n
  | element {t c : Tree} {n : List Char}
      (hk : t.kind = .formalParameters ∨ t.kind = .objectPattern ∨ t.kind = .arrayPattern ∨ t.kind = .restPattern)
      (hc : c ∈ t.children) (h : Binds c n) : Binds t n

/-- A pattern binds a name, and behind it another one or the same once more. -/
inductive BindsInOrder : Tree → List Char → List Char → Prop
  | value {t part : Tree} {m n : List Char} (hk : t.kind = .pairPattern) (hp : t.part? .value = some part)
      (h : BindsInOrder part m n) : BindsInOrder t m n
  | target {t part : Tree} {m n : List Char} (hk : t.kind = .assignmentPattern ∨ t.kind = .objectAssignmentPattern)
      (hp : t.part? .left = some part) (h : BindsInOrder part m n) : BindsInOrder t m n
  | element {t c : Tree} {m n : List Char}
      (hk : t.kind = .formalParameters ∨ t.kind = .objectPattern ∨ t.kind = .arrayPattern ∨ t.kind = .restPattern)
      (hc : c ∈ t.children) (h : BindsInOrder c m n) : BindsInOrder t m n
  | elements {t c d : Tree} {m n : List Char}
      (hk : t.kind = .formalParameters ∨ t.kind = .objectPattern ∨ t.kind = .arrayPattern ∨ t.kind = .restPattern)
      (hs : [c, d].Sublist t.children) (hm : Binds c m) (hn : Binds d n) : BindsInOrder t m n

/-- A part of a tree binds a name. -/
def BindsAt (field : Field) (t : Tree) (n : List Char) : Prop := ∃ part, t.part? field = some part ∧ part.Binds n

/-- A part of a tree binds two names, one behind the other. -/
def BindsAtInOrder (field : Field) (t : Tree) (m n : List Char) : Prop :=
  ∃ part, t.part? field = some part ∧ part.BindsInOrder m n

/-! ## Declarations with `var` -/

/-- A statement itself declares a name with `var`. -/
def DeclaresVar (t : Tree) (n : List Char) : Prop :=
  (t.kind = .variableDeclaration ∧ ∃ declarator ∈ t.children, declarator.BindsAt .name n)
    ∨ (t.kind = .forInStatement ∧ (∃ k, t.part? .kind = some k ∧ k.kind = .token .kwVar) ∧ t.BindsAt .left n)

/-- A tree is among some trees or below one of them, outside functions and classes. -/
inductive Hoists : List Tree → Tree → Prop
  | here {ts : List Tree} {t : Tree} (hm : t ∈ ts) (ho : ¬ (t.kind.isFunction ∨ t.kind.isClass)) : Hoists ts t
  | inside {ts : List Tree} {t u : Tree} (hm : t ∈ ts) (ho : ¬ (t.kind.isFunction ∨ t.kind.isClass))
      (h : Hoists t.children u) : Hoists ts u

theorem Hoists.mono {ts us : List Tree} {t : Tree} (h : Hoists ts t) (hs : ∀ u ∈ ts, u ∈ us) : Hoists us t := by
  cases h with
  | here hm ho => exact .here (hs _ hm) ho
  | inside hm ho h => exact .inside (hs _ hm) ho h

/-- A name is declared with `var` in some trees, outside functions and classes. -/
def HoistsVar (ts : List Tree) (n : List Char) : Prop := ∃ t, Hoists ts t ∧ t.DeclaresVar n

/-! ## Functions and lexical declarations -/

/-- A part of a declaration is its name. -/
def IsNamed (t : Tree) (n : List Char) : Prop := ∃ part, t.part? .name = some part ∧ part.text = n

/-- A statement declares a function or a generator of this name. -/
def NamesFunction (t : Tree) (n : List Char) : Prop :=
  (t.kind = .functionDeclaration ∨ t.kind = .generatorFunctionDeclaration) ∧ t.IsNamed n

/-- One of some statements declares a function of this name. -/
def DeclaresFunction (ts : List Tree) (n : List Char) : Prop := ∃ t ∈ ts, t.NamesFunction n

/-- A statement declares a name with `let`, `const` or `class`. -/
inductive DeclaresLexically : Tree → Binding → Prop
  | declarator {t d : Tree} {n : List Char} (hk : t.kind = .lexicalDeclaration) (hd : d ∈ t.children)
      (h : d.BindsAt .name n) : DeclaresLexically t ⟨n, false⟩
  | class {t : Tree} {n : List Char} (hk : t.kind = .classDeclaration) (h : t.IsNamed n) : DeclaresLexically t ⟨n, false⟩

/-- A statement of a block declares a name lexically; there functions are lexical too. -/
inductive DeclaresInBlock : Tree → Binding → Prop
  | lexical {t : Tree} {b : Binding} (h : t.DeclaresLexically b) : DeclaresInBlock t b
  | function {t : Tree} {n : List Char} (h : t.NamesFunction n) : DeclaresInBlock t ⟨n, true⟩

/-- A statement declares a name with `let` or `const`, and behind it another one or the same once more. -/
inductive DeclaresInOrder : Tree → Binding → Binding → Prop
  | pattern {t d : Tree} {m n : List Char} (hk : t.kind = .lexicalDeclaration) (hd : d ∈ t.children)
      (h : d.BindsAtInOrder .name m n) : DeclaresInOrder t ⟨m, false⟩ ⟨n, false⟩
  | declarators {t d e : Tree} {m n : List Char} (hk : t.kind = .lexicalDeclaration) (hs : [d, e].Sublist t.children)
      (hm : d.BindsAt .name m) (hn : e.BindsAt .name n) : DeclaresInOrder t ⟨m, false⟩ ⟨n, false⟩

/-- Some statements declare two names lexically, one behind the other, where `declares` is what a statement declares. -/
def DeclareInOrder (declares : Tree → Binding → Prop) (ts : List Tree) (a b : Binding) : Prop :=
  (∃ t ∈ ts, t.DeclaresInOrder a b) ∨ ∃ s t, [s, t].Sublist ts ∧ declares s a ∧ declares t b

/-! ## The names that are collected -/

section BoundNames

variable {field : Field} {m n : List Char}

/-- What is collected from a tree is bound by it. -/
theorem binds_of_mem_boundNames (t : Tree) : n ∈ t.boundNames → t.Binds n := by
  induction t using induction_children with
  | step t ih =>
    intro h
    cases t with
    | leaf info text =>
      rw [boundNames] at h
      split at h
      next hk => exact List.mem_singleton.1 h ▸ .name (.inl hk)
      next hk => exact List.mem_singleton.1 h ▸ .name (.inr hk)
      next => cases h
    | node info children =>
      rcases boundNames_node info with ⟨hk, hnames⟩ | ⟨hk, hnames⟩ | ⟨hk, hnames⟩ | hnames
      · rw [hnames] at h
        obtain ⟨part, hp, h⟩ := (mem_boundNamesAt (t := node info children)).1 h
        exact .value hk hp (ih part (mem_children_of_part? hp) h)
      · rw [hnames] at h
        obtain ⟨part, hp, h⟩ := (mem_boundNamesAt (t := node info children)).1 h
        exact .target hk hp (ih part (mem_children_of_part? hp) h)
      · rw [hnames, boundNamesIn_eq, List.mem_flatMap] at h
        obtain ⟨c, hc, h⟩ := h
        exact .element hk hc (ih c hc h)
      · rw [hnames] at h
        cases h

/-- The names that a tree binds are those that are collected. -/
theorem mem_boundNames {t : Tree} : n ∈ t.boundNames ↔ t.Binds n := by
  refine ⟨binds_of_mem_boundNames t, fun h => ?_⟩
  induction h with
  | name hk => rcases hk with hk | hk <;> simp [boundNames, hk]
  | @value t part n hk hp _ ih =>
    rw [boundNames_of_value hk]
    exact mem_boundNamesAt.2 ⟨part, hp, ih⟩
  | @target t part n hk hp _ ih =>
    rw [boundNames_of_target hk]
    exact mem_boundNamesAt.2 ⟨part, hp, ih⟩
  | @element t c n hk hc _ ih =>
    rw [boundNames_of_elements hk]
    exact List.mem_flatMap.2 ⟨c, hc, ih⟩

theorem mem_boundNamesAt_iff_bindsAt {t : Tree} : n ∈ boundNamesAt field t.children ↔ t.BindsAt field n := by
  rw [mem_boundNamesAt, BindsAt]
  simp only [mem_boundNames]

theorem pair_sublist_boundNamesAt {t : Tree} : [m, n].Sublist (boundNamesAt field t.children) ↔
    ∃ part, t.part? field = some part ∧ [m, n].Sublist part.boundNames := by
  rw [boundNamesAt_eq, ← part?]
  cases t.part? field <;> simp

/-- Two names that are collected, one behind the other, are bound in this order. -/
theorem bindsInOrder_of_pair_sublist (t : Tree) : [m, n].Sublist t.boundNames → t.BindsInOrder m n := by
  induction t using induction_children with
  | step t ih =>
    intro h
    cases t with
    | leaf info text =>
      -- A leaf binds one name at most.
      have hlength := h.length_le
      rw [boundNames] at hlength
      split at hlength <;> simp at hlength
    | node info children =>
      rcases boundNames_node info with ⟨hk, hnames⟩ | ⟨hk, hnames⟩ | ⟨hk, hnames⟩ | hnames
      · rw [hnames] at h
        obtain ⟨part, hp, h⟩ := (pair_sublist_boundNamesAt (t := node info children)).1 h
        exact .value hk hp (ih part (mem_children_of_part? hp) h)
      · rw [hnames] at h
        obtain ⟨part, hp, h⟩ := (pair_sublist_boundNamesAt (t := node info children)).1 h
        exact .target hk hp (ih part (mem_children_of_part? hp) h)
      · rw [hnames, boundNamesIn_eq, pair_sublist_flatMap] at h
        rcases h with ⟨c, hc, h⟩ | ⟨c, d, hs, hm, hn⟩
        · exact .element hk hc (ih c hc h)
        · exact .elements hk hs (mem_boundNames.1 hm) (mem_boundNames.1 hn)
      · rw [hnames] at h
        cases h

/-- Names are collected in the order in which a tree binds them, and as often. -/
theorem pair_sublist_boundNames {t : Tree} : [m, n].Sublist t.boundNames ↔ t.BindsInOrder m n := by
  refine ⟨bindsInOrder_of_pair_sublist t, fun h => ?_⟩
  induction h with
  | @value t part m n hk hp _ ih =>
    rw [boundNames_of_value hk]
    exact pair_sublist_boundNamesAt.2 ⟨part, hp, ih⟩
  | @target t part m n hk hp _ ih =>
    rw [boundNames_of_target hk]
    exact pair_sublist_boundNamesAt.2 ⟨part, hp, ih⟩
  | @element t c m n hk hc _ ih =>
    rw [boundNames_of_elements hk]
    exact pair_sublist_flatMap.2 (.inl ⟨c, hc, ih⟩)
  | @elements t c d m n hk hs hm hn =>
    rw [boundNames_of_elements hk]
    exact pair_sublist_flatMap.2 (.inr ⟨c, d, hs, mem_boundNames.2 hm, mem_boundNames.2 hn⟩)

theorem pair_sublist_boundNamesAt_iff_bindsAtInOrder {t : Tree} :
    [m, n].Sublist (boundNamesAt field t.children) ↔ t.BindsAtInOrder field m n := by
  rw [pair_sublist_boundNamesAt, BindsAtInOrder]
  simp only [pair_sublist_boundNames]

end BoundNames

section VarNames

variable {n : List Char}

theorem mem_declaredNames {t : Tree} : n ∈ t.declaredNames ↔ ∃ d ∈ t.children, d.BindsAt .name n := by
  simp only [declaredNames, List.mem_flatMap, mem_boundNamesAt_iff_bindsAt]

theorem mem_ownVarNames {t : Tree} : n ∈ t.ownVarNames ↔ t.DeclaresVar n := by
  rw [ownVarNames, DeclaresVar]
  split
  next hk => simp [hk, mem_declaredNames]
  next hk =>
    split
    next hvar =>
      rw [Option.any_eq_true] at hvar
      obtain ⟨k, hk', hvar⟩ := hvar
      simp [hk, mem_boundNamesAt_iff_bindsAt, hk', of_decide_eq_true hvar]
    next hvar =>
      refine ⟨fun h => absurd h List.not_mem_nil, fun h => ?_⟩
      obtain ⟨hv, -⟩ | ⟨-, ⟨k, hk', hvar'⟩, -⟩ := h
      · rw [hk] at hv
        cases hv
      · exact absurd (by rw [hk', Option.any_some, decide_eq_true hvar']) hvar
  next hv hf =>
    refine ⟨fun h => absurd h List.not_mem_nil, ?_⟩
    rintro (⟨hk, -⟩ | ⟨hk, -⟩)
    · exact absurd hk hv
    · exact absurd hk hf

/-- What is collected for `var` from a tree is declared in it. -/
theorem hoistsVar_of_mem_varNames (t : Tree) : n ∈ t.varNames → HoistsVar [t] n := by
  induction t using induction_children with
  | step t ih =>
    intro h
    by_cases ho : t.kind.isFunction ∨ t.kind.isClass
    · rw [varNames_of_isFunction_or_isClass ho] at h
      cases h
    · rw [varNames_eq ho, List.mem_append, varNamesIn_eq, List.mem_flatMap] at h
      rcases h with h | ⟨c, hc, h⟩
      · exact ⟨t, .here List.mem_cons_self ho, mem_ownVarNames.1 h⟩
      · obtain ⟨u, hu, hn⟩ := ih c hc h
        have hbelow : Hoists t.children u := hu.mono fun v hv => List.mem_singleton.1 hv ▸ hc
        exact ⟨u, .inside List.mem_cons_self ho hbelow, hn⟩

/-- The names that `var` declares in some trees are those that are collected. -/
theorem mem_varNamesIn {ts : List Tree} : n ∈ varNamesIn ts ↔ HoistsVar ts n := by
  rw [varNamesIn_eq, List.mem_flatMap]
  constructor
  · rintro ⟨t, hm, h⟩
    obtain ⟨u, hu, hn⟩ := hoistsVar_of_mem_varNames t h
    exact ⟨u, hu.mono fun v hv => List.mem_singleton.1 hv ▸ hm, hn⟩
  · rintro ⟨u, hu, hn⟩
    rw [← mem_ownVarNames] at hn
    induction hu with
    | @here ts t hm ho => exact ⟨t, hm, varNames_eq ho ▸ List.mem_append_left _ hn⟩
    | @inside ts t u hm ho _ ih =>
      have hbelow : n ∈ varNamesIn t.children := varNamesIn_eq t.children ▸ List.mem_flatMap.2 (ih hn)
      exact ⟨t, hm, varNames_eq ho ▸ List.mem_append_right _ hbelow⟩

end VarNames

section Lexical

variable {n : List Char} {a b : Binding} {t : Tree} {ts : List Tree}

theorem mem_nameText : n ∈ t.nameText ↔ t.IsNamed n := by
  rw [nameText, IsNamed]
  cases t.part? .name <;> simp [eq_comm]

theorem isFunctionDeclaration_iff : t.kind.isFunctionDeclaration ↔
    t.kind = .functionDeclaration ∨ t.kind = .generatorFunctionDeclaration := by
  cases t.kind <;> simp [Kind.isFunctionDeclaration]

/-- The functions that some statements declare are those that are collected. -/
theorem mem_functionNames :
    n ∈ (ts.filter (·.kind.isFunctionDeclaration)).flatMap (·.nameText) ↔ DeclaresFunction ts n := by
  simp only [List.mem_flatMap, List.mem_filter, mem_nameText, isFunctionDeclaration_iff, and_assoc, DeclaresFunction,
    NamesFunction]

theorem mem_lexicalOf : b ∈ Scope.lexicalOf t ↔ t.DeclaresLexically b := by
  rw [Scope.lexicalOf]
  constructor
  · intro h
    split at h
    next hk =>
      obtain ⟨n, hn, rfl⟩ := List.mem_map.1 h
      obtain ⟨d, hd, hn⟩ := mem_declaredNames.1 hn
      exact .declarator hk hd hn
    next hk =>
      obtain ⟨n, hn, rfl⟩ := List.mem_map.1 h
      exact .class hk (mem_nameText.1 hn)
    next => cases h
  · intro h
    cases h with
    | declarator hk hd h =>
      rw [hk]
      exact List.mem_map_of_mem (mem_declaredNames.2 ⟨_, hd, h⟩)
    | «class» hk h =>
      rw [hk]
      exact List.mem_map_of_mem (mem_nameText.2 h)

theorem mem_lexicalInBlock : b ∈ Scope.lexicalInBlock t ↔ t.DeclaresInBlock b := by
  rw [Scope.lexicalInBlock]
  constructor
  · intro h
    split at h
    next hk =>
      obtain ⟨n, hn, rfl⟩ := List.mem_map.1 h
      exact .function ⟨isFunctionDeclaration_iff.1 hk, mem_nameText.1 hn⟩
    next => exact .lexical (mem_lexicalOf.1 h)
  · intro h
    cases h with
    | lexical h =>
      have hk : ¬ t.kind.isFunctionDeclaration := by
        cases h with
        | declarator hk _ _ => simp [hk, Kind.isFunctionDeclaration]
        | «class» hk _ => simp [hk, Kind.isFunctionDeclaration]
      rw [if_neg hk]
      exact mem_lexicalOf.2 h
    | function h =>
      rw [if_pos (isFunctionDeclaration_iff.2 h.1)]
      exact List.mem_map_of_mem (mem_nameText.2 h.2)

/-- A declaration has one name at most. -/
theorem not_pair_sublist_nameText {f : List Char → Binding} : ¬ [a, b].Sublist (t.nameText.map f) := by
  intro h
  have hlength := h.length_le
  rw [nameText] at hlength
  cases ht : t.part? .name <;> simp [ht] at hlength

/-- The names of declarators are collected in their order. -/
theorem pair_sublist_lexicalOf : [a, b].Sublist (Scope.lexicalOf t) ↔ t.DeclaresInOrder a b := by
  rw [Scope.lexicalOf]
  constructor
  · intro h
    split at h
    next hk =>
      obtain ⟨m, n, hs, rfl, rfl⟩ := pair_sublist_map.1 h
      rw [declaredNames, pair_sublist_flatMap] at hs
      rcases hs with ⟨d, hd, hs⟩ | ⟨d, e, hde, hm, hn⟩
      · exact .pattern hk hd (pair_sublist_boundNamesAt_iff_bindsAtInOrder.1 hs)
      · exact .declarators hk hde (mem_boundNamesAt_iff_bindsAt.1 hm) (mem_boundNamesAt_iff_bindsAt.1 hn)
    next => exact absurd h not_pair_sublist_nameText
    next => cases h
  · intro h
    cases h with
    | @pattern d m n hk hd h =>
      rw [hk]
      have hs : [m, n].Sublist t.declaredNames :=
        pair_sublist_flatMap.2 (.inl ⟨d, hd, pair_sublist_boundNamesAt_iff_bindsAtInOrder.2 h⟩)
      exact pair_sublist_map.2 ⟨m, n, hs, rfl, rfl⟩
    | @declarators d e m n hk hde hm hn =>
      rw [hk]
      have hs : [m, n].Sublist t.declaredNames := pair_sublist_flatMap.2
        (.inr ⟨d, e, hde, mem_boundNamesAt_iff_bindsAt.2 hm, mem_boundNamesAt_iff_bindsAt.2 hn⟩)
      exact pair_sublist_map.2 ⟨m, n, hs, rfl, rfl⟩

theorem pair_sublist_lexicalInBlock : [a, b].Sublist (Scope.lexicalInBlock t) ↔ t.DeclaresInOrder a b := by
  rw [Scope.lexicalInBlock]
  split
  next hk =>
    refine ⟨fun h => absurd h not_pair_sublist_nameText, fun h => ?_⟩
    cases h with
    | pattern hk' _ _ => simp [hk', Kind.isFunctionDeclaration] at hk
    | declarators hk' _ _ _ => simp [hk', Kind.isFunctionDeclaration] at hk
  next => exact pair_sublist_lexicalOf

/-- The lexical declarations of some statements are those that are collected. -/
theorem mem_flatMap_lexicalOf : b ∈ ts.flatMap Scope.lexicalOf ↔ ∃ t ∈ ts, t.DeclaresLexically b := by
  simp only [List.mem_flatMap, mem_lexicalOf]

theorem mem_flatMap_lexicalInBlock : b ∈ ts.flatMap Scope.lexicalInBlock ↔ ∃ t ∈ ts, t.DeclaresInBlock b := by
  simp only [List.mem_flatMap, mem_lexicalInBlock]

/-- They are collected in their order, and as often as they are made. -/
theorem pair_sublist_flatMap_lexicalOf :
    [a, b].Sublist (ts.flatMap Scope.lexicalOf) ↔ DeclareInOrder DeclaresLexically ts a b := by
  simp only [pair_sublist_flatMap, pair_sublist_lexicalOf, mem_lexicalOf, DeclareInOrder]

theorem pair_sublist_flatMap_lexicalInBlock :
    [a, b].Sublist (ts.flatMap Scope.lexicalInBlock) ↔ DeclareInOrder DeclaresInBlock ts a b := by
  simp only [pair_sublist_flatMap, pair_sublist_lexicalInBlock, mem_lexicalInBlock, DeclareInOrder]

end Lexical

end Tree
end Bookmarklet.Script
