import Bookmarklet.Proofs.Script.Scope
import Bookmarklet.Script.Early

/-!
# The walk over a tree

The checker goes over the nodes of a tree in document order, with the surroundings of each, and stops at the first
offence. What it reads of a node is the scope that the node makes (`Tree.ownScope?`), its kind and start, its label, its
operand and what it deletes (`Tree.ReadsAs`), and what the node makes of its surroundings.

Several results of the project change the trees of programs, their names or their comments, and ask what becomes of the
offences. They share one argument: a map of trees that keeps what the walk reads of each node, and leaves out nodes
without offence at most (`Tree.KeepsWalk`), keeps the first offence of a tree (`Tree.KeepsWalk.violation?_map`) and of a
program (`Tree.KeepsWalk.programViolation?_map`).
-/

namespace Bookmarklet.Script.Tree

theorem apart_of_isFunction {kind : Kind} (h : kind.isFunction) :
    kind.isMarkup = false ∧ kind.isClass = false ∧ kind ≠ .classStaticBlock := by
  cases kind <;> first | exact absurd h Bool.false_ne_true | decide

/-! ## The first offence -/

section First

variable {c : Context} {owner : Owner} {t : Tree}

theorem violationIn?_eq_none_iff {owner : Tree → Owner} {ts : List Tree} :
    violationIn? c owner ts = none ↔ ∀ t ∈ ts, t.violation? c (owner t) = none := by
  induction ts with
  | nil => simp [violationIn?]
  | cons t ts ih => simp [violationIn?, ih]

/-- The first offence in a tree is that of its root or the first one below. -/
theorem violation?_eq (c : Context) (owner : Owner) (t : Tree) :
    t.violation? c owner = (t.ownViolation? c owner).or (violationIn? (contextBelow c t) (ownerOf t) t.children) := by
  cases t with
  | leaf info text => exact (Option.or_none ..).symm
  | node info children => rfl

/-- A tree commits no offence if and only if neither its root nor a tree directly below does. -/
theorem violation?_eq_none_iff : t.violation? c owner = none ↔ t.ownViolation? c owner = none
    ∧ ∀ u ∈ t.children, u.violation? (contextBelow c t) (ownerOf t u) = none := by
  rw [violation?_eq, Option.or_eq_none_iff, violationIn?_eq_none_iff]

theorem exists_of_violationIn? {owner : Tree → Owner} {e : SyntaxError} : ∀ {ts : List Tree},
    violationIn? c owner ts = some e → ∃ t ∈ ts, t.violation? c (owner t) = some e
  | t :: ts, h => by
    rw [violationIn?, Option.or_eq_some_iff] at h
    rcases h with h | ⟨-, h⟩
    · exact ⟨t, List.mem_cons_self, h⟩
    · obtain ⟨u, hu, h⟩ := exists_of_violationIn? h
      exact ⟨u, List.mem_cons_of_mem t hu, h⟩

end First

/-! ## Scopes -/

theorem mem_children_of_functionBlock? {t block : Tree} (h : t.functionBlock? = some block) : block ∈ t.children :=
  mem_children_of_part? (Option.filter_eq_some_iff.1 h).1

theorem mem_children_of_parameters? {t p : Tree} (h : t.parameters? = some p) : p ∈ t.children := by
  rcases Option.or_eq_some_iff.1 h with h | ⟨-, h⟩
  · exact mem_children_of_part? h
  · exact mem_children_of_part? h

/-- The scope that a node makes and is checked with. -/
def ownScope? (owner : Owner) (t : Tree) : Option Scope :=
  if t.kind.isFunction then t.functionBlock?.map fun block => .ofFunction t.parameters? block.children
  else
    match t.kind with
    | .statementBlock =>
      match owner with
      | .function => none
      | .handler parameter => some (.ofBlock parameter t.children)
      | .other => some (.ofBlock none t.children)
    | .switchBody => some (.ofCases t.children)
    | _ => none

section OwnScope

variable {c : Context} {owner : Owner} {t : Tree} {n : List Char}

theorem ownScope?_function (hf : t.kind.isFunction) :
    t.ownScope? owner = t.functionBlock?.map fun block => .ofFunction t.parameters? block.children :=
  if_pos hf

/-- Other nodes than functions, blocks and bodies of `switch` make no scope that is checked. -/
theorem ownScope?_eq_none (hf : ¬ t.kind.isFunction) (hk : ¬ (t.kind = .statementBlock ∨ t.kind = .switchBody)) :
    t.ownScope? owner = none := by
  rw [not_or] at hk
  rw [ownScope?.eq_def, if_neg hf]
  split
  next hblock => exact absurd hblock hk.1
  next hcases => exact absurd hcases hk.2
  next => rfl

/-- The offence of a function is that of its scope. -/
theorem ownViolation?_function (hf : t.kind.isFunction) :
    t.ownViolation? c owner = (t.ownScope? owner).bind (scopeViolation? true) := by
  rw [ownViolation?.eq_def, (apart_of_isFunction hf).1, if_neg Bool.false_ne_true, if_pos hf, ownScope?_function hf]
  cases t.functionBlock? <;> rfl

/-- So is that of a block and of the cases of a `switch`. -/
theorem ownViolation?_block (hk : t.kind = .statementBlock ∨ t.kind = .switchBody) :
    t.ownViolation? c owner = (t.ownScope? owner).bind (scopeViolation? c.strict) := by
  rw [ownViolation?.eq_def, ownScope?.eq_def]
  rcases hk with hk | hk
  · rw [hk]
    cases owner <;> rfl
  · rw [hk]
    rfl

theorem scopeViolation?_eq_none {strict : Bool} {scope : Scope} :
    scopeViolation? strict scope = none ↔ scope.clash? strict = none := by
  rw [scopeViolation?, Option.map_eq_none_iff]

theorem scopeViolation?_eq_redeclared {strict : Bool} {scope : Scope} :
    scopeViolation? strict scope = some (.redeclared n) ↔ scope.clash? strict = some n := by
  simp [scopeViolation?]

/-- A node without offence makes no scope that clashes. Functions count as strict code here. -/
theorem clash?_eq_none_of_ownViolation? {scope : Scope} (hs : t.ownScope? owner = some scope)
    (h : t.ownViolation? c owner = none) : scope.clash? (t.kind.isFunction || c.strict) = none := by
  by_cases hf : t.kind.isFunction
  · rw [ownViolation?_function hf, hs, Option.bind_some, scopeViolation?_eq_none] at h
    rwa [hf, Bool.true_or]
  · by_cases hk : t.kind = .statementBlock ∨ t.kind = .switchBody
    · rw [ownViolation?_block hk, hs, Option.bind_some, scopeViolation?_eq_none] at h
      rwa [Bool.eq_false_iff.2 hf, Bool.false_or]
    · rw [ownScope?_eq_none hf hk] at hs
      cases hs

theorem breakViolation?_ne_redeclared {label? : Option (List Char)} :
    breakViolation? c label? ≠ some (.redeclared n) := by
  unfold breakViolation?
  cases label? with
  | none => simp
  | some label => simp

theorem continueViolation?_ne_redeclared {label? : Option (List Char)} :
    continueViolation? c label? ≠ some (.redeclared n) := by
  unfold continueViolation?
  cases label? with
  | none => simp
  | some label =>
    simp only
    split
    · simp
    · split <;> simp
    · simp

/-- A node redeclares a name only as the owner of a scope. -/
theorem exists_clash?_of_redeclared (h : t.ownViolation? c owner = some (.redeclared n)) :
    ∃ scope, t.ownScope? owner = some scope ∧ scope.clash? (t.kind.isFunction || c.strict) = some n := by
  by_cases hf : t.kind.isFunction
  · rw [ownViolation?_function hf] at h
    obtain ⟨scope, hs, h⟩ := Option.bind_eq_some_iff.1 h
    exact ⟨scope, hs, by rwa [hf, Bool.true_or, ← scopeViolation?_eq_redeclared]⟩
  · by_cases hk : t.kind = .statementBlock ∨ t.kind = .switchBody
    · rw [ownViolation?_block hk] at h
      obtain ⟨scope, hs, h⟩ := Option.bind_eq_some_iff.1 h
      exact ⟨scope, hs, by rwa [Bool.eq_false_iff.2 hf, Bool.false_or, ← scopeViolation?_eq_redeclared]⟩
    · rw [not_or] at hk
      rw [ownViolation?.eq_def, if_neg hf] at h
      split at h
      · cases h
      · split at h
        next hblock => exact absurd hblock hk.1
        next hcases => exact absurd hcases hk.2
        · exact absurd h breakViolation?_ne_redeclared
        · exact absurd h continueViolation?_ne_redeclared
        · split at h <;> cases h
        · split at h <;> cases h
        · split at h <;> cases h
        · split at h <;> cases h
        · cases h

end OwnScope

/-! ## Maps that keep what the walk reads -/

/-- What a block belongs to, after a map of trees. -/
def Owner.map (f : Tree → Tree) : Owner → Owner
  | function => function
  | handler parameter => handler (parameter.map f)
  | other => other

/-- The rules for single nodes read two nodes alike, as far as `see` tells offences apart. An operand plays a part only
where it decides whether a word is reserved. -/
structure ReadsAs (see : SyntaxError → SyntaxError) (c : Context) (owner owner' : Owner) (t t' : Tree) : Prop where
  kind : t'.kind = t.kind
  start : t'.start = t.start
  label : t'.labelText? = t.labelText?
  deletes : t'.deletesName = t.deletesName
  awaits : t.kind = .awaitExpression → c.isAsync ∨ t'.isCallLike = t.isCallLike
  yields : t.kind = .yieldExpression → c.generator ∨ c.strict ∨ t'.isCallLike = t.isCallLike
  scope (strict : Bool) : ((t'.ownScope? owner').bind (scopeViolation? strict)).map see
    = ((t.ownScope? owner).bind (scopeViolation? strict)).map see

/-- Nodes that are read alike commit the same offence. -/
theorem ReadsAs.ownViolation? {see : SyntaxError → SyntaxError} {c : Context} {owner owner' : Owner} {t t' : Tree}
    (h : ReadsAs see c owner owner' t t') :
    (t'.ownViolation? c owner').map see = (t.ownViolation? c owner).map see := by
  by_cases hf : t.kind.isFunction
  · have hf' : t'.kind.isFunction := by rwa [h.kind]
    rw [ownViolation?_function hf, ownViolation?_function hf', h.scope]
  · by_cases hk : t.kind = .statementBlock ∨ t.kind = .switchBody
    · have hk' : t'.kind = .statementBlock ∨ t'.kind = .switchBody := by rwa [h.kind]
      rw [ownViolation?_block hk, ownViolation?_block hk', h.scope]
    · rw [not_or] at hk
      rw [ownViolation?.eq_def, ownViolation?.eq_def, h.kind, h.start, h.label, h.deletes, if_neg hf, if_neg hf]
      split
      · rfl
      · split
        next hblock => exact absurd hblock hk.1
        next hcases => exact absurd hcases hk.2
        next => rfl
        next => rfl
        next hawait =>
          rcases h.awaits hawait with hc | hc
          · simp only [hc, Bool.not_true, Bool.false_and]
          · rw [hc]
        next hyield =>
          rcases h.yields hyield with hc | hc | hc
          · simp only [hc, Bool.not_true, Bool.false_and]
          · simp only [hc, Bool.true_or]
          · rw [hc]
        all_goals rfl

/-- A map of trees keeps what the walk reads of each tree for which it is asked to, with the surroundings and the owner
that the tree is come to with. It may leave out children in which there is no offence. -/
structure KeepsWalk (f : Tree → Tree) (keep : Tree → Bool) (see : SyntaxError → SyntaxError)
    (asked : Context → Owner → Tree → Prop) : Prop where
  reads {c : Context} {owner : Owner} {t : Tree} (h : asked c owner t) : ReadsAs see c owner (owner.map f) t (f t)
  context {c : Context} {owner : Owner} {t : Tree} (h : asked c owner t) : contextBelow c (f t) = contextBelow c t
  children {c : Context} {owner : Owner} {t : Tree} (h : asked c owner t) :
    (f t).children = (t.children.filter keep).map f
  owner {c : Context} {owner : Owner} {t : Tree} (h : asked c owner t) :
    ∀ u ∈ t.children, ownerOf (f t) (f u) = (ownerOf t u).map f
  leftOut {c : Context} {owner : Owner} {t : Tree} (h : asked c owner t) :
    ∀ u ∈ t.children, keep u = false → ∀ c owner, u.violation? c owner = none
  below {c : Context} {owner : Owner} {t : Tree} (h : asked c owner t) :
    ∀ u ∈ t.children, asked (contextBelow c t) (ownerOf t u) u

section KeepsWalk

variable {f : Tree → Tree} {keep : Tree → Bool} {see : SyntaxError → SyntaxError} {c : Context}

/-- The walk over trees meets the offence that it did, if the walk over each of them does and those left out commit
none. -/
theorem violationIn?_map_filter {owner owner' : Tree → Owner} {ts : List Tree}
    (hleft : ∀ t ∈ ts, keep t = false → t.violation? c (owner t) = none)
    (h : ∀ t ∈ ts, ((f t).violation? c (owner' (f t))).map see = (t.violation? c (owner t)).map see) :
    (violationIn? c owner' ((ts.filter keep).map f)).map see = (violationIn? c owner ts).map see := by
  induction ts with
  | nil => rfl
  | cons t ts ih =>
    have ih := ih (fun u hu => hleft u (List.mem_cons_of_mem t hu)) fun u hu => h u (List.mem_cons_of_mem t hu)
    rw [violationIn?, List.filter_cons]
    split
    next hk =>
      rw [List.map_cons, violationIn?, Option.map_or, Option.map_or, h t List.mem_cons_self, ih]
    next hk => rw [hleft t List.mem_cons_self (by simpa using hk), Option.none_or, ih]

variable {asked : Context → Owner → Tree → Prop} (hk : KeepsWalk f keep see asked)
include hk

/-- A map that keeps what the walk reads keeps the first offence of a tree. -/
theorem KeepsWalk.violation?_map (t : Tree) : ∀ {c : Context} {owner : Owner}, asked c owner t →
    ((f t).violation? c (owner.map f)).map see = (t.violation? c owner).map see := by
  induction t using induction_children with
  | step t ih =>
    intro c owner h
    rw [violation?_eq, violation?_eq, Option.map_or, Option.map_or, (hk.reads h).ownViolation?, hk.context h,
      hk.children h]
    refine congrArg _ (violationIn?_map_filter (fun u hu hleft => hk.leftOut h u hu hleft _ _) fun u hu => ?_)
    rw [hk.owner h u hu]
    exact ih u hu (hk.below h u hu)

/-- It keeps that of a program, if the program declares the same names and is as strict. -/
theorem KeepsWalk.programViolation?_map {t : Tree} (hchildren : (f t).children = (t.children.filter keep).map f)
    (hscope : (scopeViolation? true (.ofFunction none (f t).children)).map see
      = (scopeViolation? true (.ofFunction none t.children)).map see)
    (hstrict : areStrict (f t).children = areStrict t.children)
    (hleft : ∀ u ∈ t.children, keep u = false → ∀ c owner, u.violation? c owner = none)
    (h : ∀ u ∈ t.children, asked (.program (areStrict t.children)) .other u) :
    (f t).programViolation?.map see = t.programViolation?.map see := by
  rw [programViolation?, programViolation?, Option.map_or, Option.map_or, hscope, hstrict, hchildren]
  exact congrArg _ (violationIn?_map_filter (fun u hu hk => hleft u hu hk _ _) fun u hu => hk.violation?_map u (h u hu))

end KeepsWalk

end Bookmarklet.Script.Tree
