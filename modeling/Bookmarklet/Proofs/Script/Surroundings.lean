import Bookmarklet.Proofs.Script.Walk

/-!
# What the surroundings of a node allow

A node of a program is told by the nodes around it, innermost first (`Tree.Within`), which make its code strict or not
(`Tree.isStrictWithin`).

The checker carries a `Context` from a node to what the node contains. Functions and static blocks make a context of
their own (`Tree.contextBelow_boundary`), every other node only adds to that around it (`Tree.contextBelow_inner`). So
the context of a place can be read off the nodes around it (`Tree.contextWithin`): it is that of the innermost function
or static block, with the loops, switches and labels inside of that (`Tree.reach`).

A program is accepted if and only if neither its own scope nor a node below it commits an offence where it stands
(`Tree.programViolation?_eq_none_iff_obeys`). A program that obeys the rules for all nodes but those of some kinds
(`Tree.ObeysExcept`) is therefore accepted if and only if these commit none.
-/

namespace Bookmarklet.Script.Tree

/-! ## The nodes around a node -/

/-- A node below a program, with the nodes around it apart from the program, innermost first. -/
inductive Within (program : Tree) : List Tree → Tree → Prop
  | top {t : Tree} (hm : t ∈ program.children) : Within program [] t
  | inside {around : List Tree} {parent t : Tree} (h : Within program around parent) (hm : t ∈ parent.children) :
      Within program (parent :: around) t

/-- Classes and functions with a directive make the code in them strict. -/
def makesStrict (t : Tree) : Bool :=
  t.kind.isClass || t.kind = .classStaticBlock || (t.kind.isFunction && t.functionBlock?.any (areStrict ·.children))

/-- Whether the code inside some nodes of a program is strict. -/
def isStrictWithin (program : Tree) (around : List Tree) : Bool :=
  areStrict program.children || around.any (·.makesStrict)

/-- What a node belongs to, by the nodes around it. -/
def ownerWithin (around : List Tree) (t : Tree) : Owner :=
  match around with
  | [] => .other
  | parent :: _ => ownerOf parent t

/-! ## The context that a node makes -/

/-- Functions and static blocks, whose code is on its own as to jumps, `await` and `yield`. -/
def isBoundary (t : Tree) : Bool := t.kind.isFunction || t.kind = .classStaticBlock

/-- Whether a node is a function that may wait. -/
def isAsync (t : Tree) : Bool := t.kind.isFunction && t.hasToken .kwAsync

/-- Whether a node has a loop for its body. -/
def labelsLoop (t : Tree) : Bool := (t.part? .body).any (·.kind.isLoop)

/-- The label that a statement carries, and whether it is that of a loop. -/
def ownLabels (t : Tree) : List (List Char × Bool) :=
  if t.kind = .labeledStatement then (t.labelText?.map fun label => (label, t.labelsLoop)).toList else []

/-- A function or a static block keeps nothing of the context around it but strictness. -/
theorem contextBelow_boundary {t : Tree} (h : t.isBoundary) (c : Context) :
    contextBelow c t = c.function t.makesStrict t.isAsync t.isGenerator := by
  rw [isBoundary, Bool.or_eq_true, decide_eq_true_eq] at h
  rcases h with hf | hk
  · obtain ⟨-, hclass, hstatic⟩ := apart_of_isFunction hf
    simp [contextBelow, makesStrict, isAsync, hf, hclass, hstatic]
  · simp [contextBelow, makesStrict, isAsync, isGenerator, hk, Kind.isFunction, Kind.isClass, Kind.isLoop]

/-- Any other node keeps the context around it and adds to it. -/
theorem contextBelow_inner {t : Tree} (h : t.isBoundary = false) (c : Context) :
    contextBelow c t = ⟨c.strict || t.kind.isClass, c.isAsync, c.generator, c.inLoop || t.kind.isLoop,
      c.inSwitch || t.kind = .switchStatement, t.ownLabels ++ c.labels⟩ := by
  obtain ⟨hf, hstatic⟩ : t.kind.isFunction = false ∧ t.kind ≠ .classStaticBlock := by simpa [isBoundary] using h
  unfold contextBelow ownLabels labelsLoop
  rw [hf, if_neg Bool.false_ne_true]
  split
  next hc =>
    have hk : t.kind = .classExpression ∨ t.kind = .classDeclaration := by
      revert hc
      cases t.kind <;> simp [Kind.isClass]
    rcases hk with hk | hk <;> simp [hk, Kind.isClass, Kind.isLoop]
  next hc =>
    split
    next hl =>
      have hk : t.kind = .forStatement ∨ t.kind = .forInStatement ∨ t.kind = .whileStatement
          ∨ t.kind = .doStatement := by
        revert hl
        cases t.kind <;> simp [Kind.isLoop]
      rcases hk with hk | hk | hk | hk <;> simp [hk, Kind.isClass, Kind.isLoop]
    next hl =>
      split
      · contradiction
      next hk => simp [hk, Kind.isClass, Kind.isLoop]
      next hk => cases t.labelText? <;> simp [hk, Kind.isClass, Kind.isLoop]
      next hs hlabel =>
        rw [if_neg hlabel, decide_eq_false hs]
        simp [hc, hl]

/-- Strictness below a node. -/
theorem strict_contextBelow (c : Context) (t : Tree) : (contextBelow c t).strict = (c.strict || t.makesStrict) := by
  cases hb : t.isBoundary with
  | true => rw [contextBelow_boundary hb, Context.function]
  | false =>
    obtain ⟨hf, hstatic⟩ : t.kind.isFunction = false ∧ t.kind ≠ .classStaticBlock := by simpa [isBoundary] using hb
    rw [contextBelow_inner hb, makesStrict, hf, decide_eq_false hstatic, Bool.or_false, Bool.false_and, Bool.or_false]

/-! ## The context of a place -/

/-- The context that a program and some nodes of it, innermost first, make for what they contain. -/
def contextWithin (program : Tree) : List Tree → Context
  | [] => .program (areStrict program.children)
  | parent :: around => contextBelow (program.contextWithin around) parent

/-- The nodes around a place that are in the same function or static block, innermost first. -/
def reach (around : List Tree) : List Tree := around.takeWhile (!·.isBoundary)

theorem reach_cons_boundary {parent : Tree} (h : parent.isBoundary) (around : List Tree) :
    reach (parent :: around) = [] := by
  simp [reach, h]

theorem reach_cons_inner {parent : Tree} (h : parent.isBoundary = false) (around : List Tree) :
    reach (parent :: around) = parent :: reach around := by
  simp [reach, h]

/-- The innermost function or static block around a place. -/
def boundary? (around : List Tree) : Option Tree := around.find? (·.isBoundary)

section ContextWithin

variable (program : Tree)

theorem isStrictWithin_cons (parent : Tree) (around : List Tree) :
    program.isStrictWithin (parent :: around) = (program.isStrictWithin around || parent.makesStrict) := by
  rw [isStrictWithin, isStrictWithin, List.any_cons, Bool.or_assoc, Bool.or_comm (around.any _)]

theorem strict_contextWithin (around : List Tree) :
    (program.contextWithin around).strict = program.isStrictWithin around := by
  induction around with
  | nil => simp [contextWithin, Context.program, isStrictWithin]
  | cons parent around ih => rw [contextWithin, strict_contextBelow, ih, isStrictWithin_cons]

/-- What a place allows as to jumps depends on the nodes in reach. -/
theorem jumps_contextWithin (around : List Tree) :
    (program.contextWithin around).inLoop = (reach around).any (·.kind.isLoop)
      ∧ (program.contextWithin around).inSwitch = (reach around).any (·.kind = .switchStatement)
      ∧ (program.contextWithin around).labels = (reach around).flatMap (·.ownLabels) := by
  induction around with
  | nil => simp [contextWithin, Context.program, reach]
  | cons parent around ih =>
    cases hb : parent.isBoundary with
    | true => simp [contextWithin, contextBelow_boundary hb, Context.function, reach_cons_boundary hb]
    | false => simp [contextWithin, contextBelow_inner hb, reach_cons_inner hb, ih, Bool.or_comm]

/-- What it allows as to `await` and `yield` depends on the innermost function or static block. -/
theorem functions_contextWithin (around : List Tree) :
    (program.contextWithin around).isAsync = (boundary? around).any (·.isAsync)
      ∧ (program.contextWithin around).generator = (boundary? around).any (·.isGenerator) := by
  induction around with
  | nil => simp [contextWithin, Context.program, boundary?]
  | cons parent around ih =>
    cases hb : parent.isBoundary with
    | true => simp [contextWithin, contextBelow_boundary hb, Context.function, boundary?, hb]
    | false => simpa [contextWithin, contextBelow_inner hb, boundary?, hb] using ih

end ContextWithin

/-! ## The places of a program -/

mutual
/-- A tree and the nodes below it, each with the nodes around it, innermost first. -/
def sites (around : List Tree) : Tree → List (List Tree × Tree)
  | leaf info text => [(around, leaf info text)]
  | node info children => (around, node info children) :: sitesIn (node info children :: around) children

/-- The nodes of some trees that stand in others. -/
def sitesIn (around : List Tree) : List Tree → List (List Tree × Tree)
  | [] => []
  | t :: ts => t.sites around ++ sitesIn around ts
end

section Sites

variable {program : Tree}

theorem sites_eq (around : List Tree) (t : Tree) :
    t.sites around = (around, t) :: t.children.flatMap (·.sites (t :: around)) := by
  have hin (outer : List Tree) (ts : List Tree) : sitesIn outer ts = ts.flatMap (·.sites outer) := by
    induction ts with
    | nil => rfl
    | cons t ts ih => rw [sitesIn, ih, List.flatMap_cons]
  cases t with
  | leaf info text => rfl
  | node info children => rw [sites, hin, Tree.children]

theorem mem_sites_self (around : List Tree) (t : Tree) : (around, t) ∈ t.sites around := by
  rw [sites_eq]
  exact List.mem_cons_self

/-- A place in a tree is below a program if the tree is. -/
theorem Within.of_mem_sites (t : Tree) : ∀ {around : List Tree}, Within program around t →
    ∀ s ∈ t.sites around, Within program s.1 s.2 := by
  induction t using induction_children with
  | step t ih =>
    intro around h s hs
    rw [sites_eq, List.mem_cons, List.mem_flatMap] at hs
    rcases hs with rfl | ⟨c, hc, hs⟩
    · exact h
    · exact ih c hc (.inside h hc) s hs

/-- What is in a node at a place in a tree has a place in the tree. -/
theorem mem_sites_child (t : Tree) : ∀ {around : List Tree} {s : List Tree × Tree}, s ∈ t.sites around →
    ∀ c ∈ s.2.children, (s.2 :: s.1, c) ∈ t.sites around := by
  induction t using induction_children with
  | step t ih =>
    intro around s hs c hc
    rw [sites_eq, List.mem_cons, List.mem_flatMap] at hs ⊢
    rcases hs with rfl | ⟨d, hd, hs⟩
    · exact .inr ⟨c, hc, mem_sites_self _ c⟩
    · exact .inr ⟨d, hd, ih d hd hs c hc⟩

/-- The nodes below a program, each with those around it. -/
def sitesBelow (program : Tree) : List (List Tree × Tree) := program.children.flatMap (·.sites [])

theorem mem_sitesBelow {around : List Tree} {t : Tree} : (around, t) ∈ program.sitesBelow ↔ Within program around t := by
  rw [sitesBelow, List.mem_flatMap]
  constructor
  · rintro ⟨c, hc, h⟩
    exact Within.of_mem_sites c (.top hc) _ h
  · intro h
    induction h with
    | top hm => exact ⟨_, hm, mem_sites_self [] _⟩
    | inside _ hm ih =>
      obtain ⟨c, hc, h⟩ := ih
      exact ⟨c, hc, mem_sites_child c h _ hm⟩

theorem forall_within_iff {p : List Tree → Tree → Prop} :
    (∀ around t, Within program around t → p around t) ↔ ∀ s ∈ program.sitesBelow, p s.1 s.2 :=
  ⟨fun h s hs => h s.1 s.2 (mem_sitesBelow.1 hs), fun h _ _ hw => h _ (mem_sitesBelow.2 hw)⟩

/-- What is to hold at every place of a program is decided place by place. -/
instance {p : List Tree → Tree → Prop} [∀ around t, Decidable (p around t)] :
    Decidable (∀ around t, Within program around t → p around t) :=
  decidable_of_iff _ forall_within_iff.symm

end Sites

/-! ## Where programs are refused -/

/-- A program commits no offence as a scope, and its nodes apart from those of some kinds none where they stand. -/
structure ObeysExcept (program : Tree) (exempt : Kind → Bool) : Prop where
  scope : scopeViolation? true (.ofFunction none program.children) = none
  nodes : ∀ around t, Within program around t → exempt t.kind = false →
    t.ownViolation? (program.contextWithin around) (ownerWithin around t) = none

section Obeys

variable {program : Tree}

/-- A tree commits no offence if and only if no node at a place in it does. -/
theorem violation?_contextWithin (t : Tree) : ∀ around : List Tree,
    t.violation? (program.contextWithin around) (ownerWithin around t) = none ↔
      ∀ s ∈ t.sites around, s.2.ownViolation? (program.contextWithin s.1) (ownerWithin s.1 s.2) = none := by
  induction t using induction_children with
  | step t ih =>
    intro around
    rw [violation?_eq_none_iff, sites_eq, List.forall_mem_cons]
    refine and_congr_right fun _ => ?_
    simp only [List.mem_flatMap, forall_exists_index, and_imp]
    constructor
    · intro h s c hc hs
      exact (ih c hc (t :: around)).1 (h c hc) s hs
    · intro h c hc
      exact (ih c hc (t :: around)).2 fun s hs => h s c hc hs

theorem obeysExcept_iff {exempt : Kind → Bool} : program.ObeysExcept exempt ↔
    scopeViolation? true (.ofFunction none program.children) = none ∧ ∀ s ∈ program.sitesBelow, exempt s.2.kind = false →
      s.2.ownViolation? (program.contextWithin s.1) (ownerWithin s.1 s.2) = none :=
  ⟨fun h => ⟨h.scope, forall_within_iff.1 h.nodes⟩, fun h => ⟨h.1, forall_within_iff.2 h.2⟩⟩

instance {exempt : Kind → Bool} : Decidable (program.ObeysExcept exempt) := decidable_of_iff _ obeysExcept_iff.symm

/-- A program is accepted if and only if it obeys all rules. -/
theorem programViolation?_eq_none_iff_obeys :
    program.programViolation? = none ↔ program.ObeysExcept fun _ => false := by
  rw [programViolation?, Option.or_eq_none_iff, violationIn?_eq_none_iff, obeysExcept_iff, sitesBelow]
  refine and_congr_right fun _ => ?_
  simp only [List.mem_flatMap, forall_exists_index, and_imp, forall_const]
  constructor
  · intro h s c hc hs
    exact (violation?_contextWithin c []).1 (h c hc) s hs
  · intro h c hc
    exact (violation?_contextWithin c []).2 fun s hs => h s c hc hs

/-- A program that obeys the rules for all other nodes is accepted if and only if the nodes of some kinds commit no
offence where they stand. -/
theorem programViolation?_eq_none_iff {exempt : Kind → Bool} (h : program.ObeysExcept exempt) :
    program.programViolation? = none ↔ ∀ around t, Within program around t → exempt t.kind →
      t.ownViolation? (program.contextWithin around) (ownerWithin around t) = none := by
  rw [programViolation?_eq_none_iff_obeys]
  constructor
  · intro hall around t hw _
    exact hall.nodes around t hw rfl
  · intro hexempt
    refine ⟨h.scope, fun around t hw _ => ?_⟩
    cases hk : exempt t.kind with
    | false => exact h.nodes around t hw hk
    | true => exact hexempt around t hw hk

/-- An offence in a node is one of a node in it, where that stands. -/
theorem exists_of_violation? {e : SyntaxError} (t : Tree) : ∀ {around : List Tree}, Within program around t →
    t.violation? (program.contextWithin around) (ownerWithin around t) = some e →
    ∃ around' u, Within program around' u
      ∧ u.ownViolation? (program.contextWithin around') (ownerWithin around' u) = some e := by
  induction t using induction_children with
  | step t ih =>
    intro around hw h
    rw [violation?_eq, Option.or_eq_some_iff] at h
    rcases h with h | ⟨-, h⟩
    · exact ⟨around, t, hw, h⟩
    · obtain ⟨u, hu, h⟩ := exists_of_violationIn? h
      exact ih u hu (.inside hw hu) h

/-- An offence of a program is that of its scope or of a node below it. -/
theorem programViolation?_eq_some {e : SyntaxError} (h : program.programViolation? = some e) :
    scopeViolation? true (.ofFunction none program.children) = some e ∨ ∃ around t, Within program around t
      ∧ t.ownViolation? (program.contextWithin around) (ownerWithin around t) = some e := by
  rcases Option.or_eq_some_iff.1 h with h | ⟨-, h⟩
  · exact .inl h
  · obtain ⟨t, ht, h⟩ := exists_of_violationIn? h
    exact .inr (exists_of_violation? t (.top ht) h)

end Obeys

end Bookmarklet.Script.Tree
