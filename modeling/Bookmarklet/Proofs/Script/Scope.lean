import Bookmarklet.Script.Scope

/-!
# What patterns bind and `var` declares

Induction over trees by their children (`Tree.induction_children`), the names that a part, some trees or a tree without
its root declare (`Tree.boundNamesAt_eq`, `Tree.boundNamesIn_eq`, `Tree.varNamesIn_eq`), and the forms of patterns
(`Tree.boundNames_node`).
-/

namespace Bookmarklet.Script

/-- Two lexical declarations of a name exclude each other, unless both are functions of sloppy code. -/
theorem Scope.excludes_iff {strict : Bool} {a b : Binding} :
    excludes strict a b ↔ a.name = b.name ∧ (strict ∨ ¬ (a.isFunction ∧ b.isFunction)) := by
  rw [excludes]
  cases a.isFunction <;> cases b.isFunction <;> simp

namespace Tree

/-- What holds of a tree if it holds of all trees directly below holds of every tree. -/
@[elab_as_elim]
theorem induction_children {motive : Tree → Prop} (step : ∀ t : Tree, (∀ c ∈ t.children, motive c) → motive t) :
    ∀ t : Tree, motive t
  | leaf info text => step (leaf info text) nofun
  | node info children => step (node info children) fun c _hc => induction_children step c
termination_by t => sizeOf t
decreasing_by
  have := List.sizeOf_lt_of_mem (show c ∈ children from _hc)
  simp
  omega

section Parts

variable {t c : Tree} {field : Field}

theorem mem_children_of_part? (h : t.part? field = some c) : c ∈ t.children := List.mem_of_find?_eq_some h

theorem field_of_part? (h : t.part? field = some c) : c.info.field = some field := by
  simpa using List.find?_some h

end Parts

/-- A construct binds what one of its parts binds, what all of them bind, or nothing. -/
theorem boundNames_node (info : Info) :
    (info.kind = .pairPattern ∧ ∀ children, (node info children).boundNames = boundNamesAt .value children)
      ∨ ((info.kind = .assignmentPattern ∨ info.kind = .objectAssignmentPattern)
        ∧ ∀ children, (node info children).boundNames = boundNamesAt .left children)
      ∨ ((info.kind = .formalParameters ∨ info.kind = .objectPattern ∨ info.kind = .arrayPattern
          ∨ info.kind = .restPattern)
        ∧ ∀ children, (node info children).boundNames = boundNamesIn children)
      ∨ ∀ children, (node info children).boundNames = [] := by
  simp only [boundNames]
  split <;> simp_all

theorem boundNamesAt_eq (field : Field) : ∀ ts : List Tree,
    boundNamesAt field ts = ((ts.find? (·.info.field == some field)).map (·.boundNames)).getD []
  | [] => rfl
  | t :: ts => by
    rw [boundNamesAt, List.find?_cons]
    split
    next h => simp [h]
    next h => rw [beq_false_of_ne h, boundNamesAt_eq field ts]

theorem mem_boundNamesAt {field : Field} {t : Tree} {n : List Char} :
    n ∈ boundNamesAt field t.children ↔ ∃ part, t.part? field = some part ∧ n ∈ part.boundNames := by
  rw [boundNamesAt_eq, ← part?]
  cases t.part? field <;> simp

theorem boundNamesIn_eq (ts : List Tree) : boundNamesIn ts = ts.flatMap (·.boundNames) := by
  induction ts with
  | nil => rfl
  | cons t ts ih => rw [boundNamesIn, ih, List.flatMap_cons]

theorem boundNames_of_value {t : Tree} (hk : t.kind = .pairPattern) :
    t.boundNames = boundNamesAt .value t.children := by
  cases t <;> rw [kind, info] at hk <;> rw [boundNames, hk] <;> rfl

theorem boundNames_of_target {t : Tree} (hk : t.kind = .assignmentPattern ∨ t.kind = .objectAssignmentPattern) :
    t.boundNames = boundNamesAt .left t.children := by
  rcases hk with hk | hk <;> cases t <;> rw [kind, info] at hk <;> rw [boundNames, hk] <;> rfl

theorem boundNames_of_elements {t : Tree} (hk : t.kind = .formalParameters ∨ t.kind = .objectPattern
    ∨ t.kind = .arrayPattern ∨ t.kind = .restPattern) : t.boundNames = t.children.flatMap (·.boundNames) := by
  rw [← boundNamesIn_eq]
  rcases hk with hk | hk | hk | hk <;> cases t <;> rw [kind, info] at hk <;> rw [boundNames, hk] <;> rfl

theorem varNamesIn_eq (ts : List Tree) : varNamesIn ts = ts.flatMap (·.varNames) := by
  induction ts with
  | nil => rfl
  | cons t ts ih => rw [varNamesIn, ih, List.flatMap_cons]

/-- Nothing leaves a function or a class. -/
theorem varNames_of_isFunction_or_isClass {t : Tree} (ho : t.kind.isFunction ∨ t.kind.isClass) : t.varNames = [] := by
  cases t with
  | leaf info text => rfl
  | node info children => rw [varNames, if_pos (by rwa [Bool.or_eq_true])]

theorem varNames_eq {t : Tree} (ho : ¬ (t.kind.isFunction ∨ t.kind.isClass)) :
    t.varNames = t.ownVarNames ++ varNamesIn t.children := by
  cases t with
  | leaf info text =>
    have hown : (leaf info text).ownVarNames = [] := by
      rw [ownVarNames]
      split <;> rfl
    rw [hown]
    rfl
  | node info children =>
    rw [varNames, if_neg (by rwa [Bool.or_eq_true])]
    rfl

end Tree
end Bookmarklet.Script
