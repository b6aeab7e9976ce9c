import Bookmarklet.Proofs.Script.Declaration
import Bookmarklet.Proofs.Script.Surroundings

/-!
# Names that a scope declares twice

What the scopes of a program are, and which names they declare, is told here by relations that use nothing of the
checker: `Tree.Within` places each node below the program inside the nodes around it, `Tree.IsStrictWithin` tells where
code is strict, and `Tree.HasScope` puts together what the program, the bodies of functions, other blocks and the cases
of a `switch` declare. A name conflicts in a scope (`Declarations.Conflicts`) if it is declared lexically and by `var`,
or lexically twice.

* The scopes that the checker collects list just these declarations (`Scope.Lists`, `Tree.exists_hasScope`,
  `Tree.HasScope.exists_ownScope?`).
* A scope clashes if and only if a name conflicts in it, and the clash is such a name (`Scope.Lists.not_conflicts`,
  `Scope.Lists.conflicts`).
* So a program without offence has no conflict, and a name that is reported conflicts in some scope
  (`Tree.scopes_of_programViolation?`).
-/

namespace Bookmarklet.Script

/-- What a scope declares, lexically and by `var`, and whether its code is strict. -/
structure Declarations where
  strict : Prop
  lexical : Binding → Prop
  /-- There are two lexical declarations like these, one behind the other. -/
  inOrder : Binding → Binding → Prop
  isVar : List Char → Prop

/-- A name is declared lexically and by `var`, or lexically twice; sloppy code may declare two functions of one name. -/
def Declarations.Conflicts (d : Declarations) (n : List Char) : Prop :=
  (∃ b, d.lexical b ∧ b.name = n ∧ d.isVar n)
    ∨ ∃ a b, d.inOrder a b ∧ a.name = n ∧ b.name = n ∧ (d.strict ∨ ¬ (a.isFunction ∧ b.isFunction))

namespace Tree

/-! ## Strict code -/

/-- A statement is a string and nothing else. -/
def IsDirective (t : Tree) (text : List Char) : Prop :=
  t.kind = .expressionStatement ∧ ∃ literal, t.firstNamed? = some literal ∧ literal.kind = .string ∧ literal.text = text

/-- One of the directives that statements start with, behind comments and other directives, makes them strict. -/
inductive StartsStrict : List Tree → Prop
  | directive {t : Tree} {ts : List Tree} {quote quote' : Char}
      (h : t.IsDirective (quote :: "use strict".toList ++ [quote'])) : StartsStrict (t :: ts)
  | later {t : Tree} {ts : List Tree} (h : t.kind = .comment ∨ t.kind = .hashBangLine ∨ t.kind = .token .lbrace
      ∨ ∃ text, t.IsDirective text) (hs : StartsStrict ts) : StartsStrict (t :: ts)

/-- The body of a function is this block. -/
def HasBlock (f block : Tree) : Prop := f.part? .body = some block ∧ block.kind = .statementBlock

/-- Code in classes, and in functions that start with the directive, is strict. -/
inductive MakesStrict : Tree → Prop
  | class {t : Tree} (hk : t.kind.isClass) : MakesStrict t
  | staticBlock {t : Tree} (hk : t.kind = .classStaticBlock) : MakesStrict t
  | function {f block : Tree} (hf : f.kind.isFunction) (hb : f.HasBlock block) (hs : StartsStrict block.children) :
      MakesStrict f

/-- The code inside some nodes of a program is strict. -/
def IsStrictWithin (program : Tree) (around : List Tree) : Prop :=
  StartsStrict program.children ∨ ∃ t ∈ around, t.MakesStrict

/-! ## The scopes of a program -/

/-- What the statements of a program or a function declare, with its parameters. -/
def bodyDeclarations (strict : Prop) (isParameter : List Char → Prop) (statements : List Tree) : Declarations where
  strict := strict
  lexical b := ∃ t ∈ statements, t.DeclaresLexically b
  inOrder := DeclareInOrder DeclaresLexically statements
  isVar n := isParameter n ∨ DeclaresFunction statements n ∨ HoistsVar statements n

/-- What the statements of a block declare, with what a handler catches. -/
def blockDeclarations (strict : Prop) (isCaught : List Char → Prop) (statements : List Tree) : Declarations where
  strict := strict
  lexical b := ∃ t ∈ statements, t.DeclaresInBlock b
  inOrder := DeclareInOrder DeclaresInBlock statements
  isVar n := HoistsVar statements n ∨ isCaught n

/-- What the cases of a `switch` declare. -/
def caseDeclarations (strict : Prop) (cases : List Tree) : Declarations where
  strict := strict
  lexical b := ∃ t ∈ cases.flatMap (·.parts .body), t.DeclaresInBlock b
  inOrder := DeclareInOrder DeclaresInBlock (cases.flatMap (·.parts .body))
  isVar := HoistsVar cases

/-- The parameters of a function, or its only parameter, bind a name. -/
def BindsParameter (f : Tree) (n : List Char) : Prop :=
  f.BindsAt .parameters n ∨ f.part? .parameters = none ∧ f.BindsAt .parameter n

/-- A block is the body of the function around it. -/
def IsBodyWithin (around : List Tree) (t : Tree) : Prop :=
  ∃ f ∈ around.head?, f.kind.isFunction ∧ t.info.field = some .body

/-- A block stands in a handler that catches a name. -/
def CatchesWithin (around : List Tree) (n : List Char) : Prop :=
  ∃ handler ∈ around.head?, handler.kind = .catchClause ∧ handler.BindsAt .parameter n

/-- The scopes of a program. -/
inductive HasScope (program : Tree) : Declarations → Prop
  | program : HasScope program (bodyDeclarations (program.IsStrictWithin []) (fun _ => False) program.children)
  | function {around : List Tree} {f block : Tree} (h : Within program around f) (hf : f.kind.isFunction)
      (hb : f.HasBlock block) :
      HasScope program (bodyDeclarations (program.IsStrictWithin (f :: around)) f.BindsParameter block.children)
  | block {around : List Tree} {t : Tree} (h : Within program around t) (hk : t.kind = .statementBlock)
      (hb : ¬ IsBodyWithin around t) :
      HasScope program (blockDeclarations (program.IsStrictWithin around) (CatchesWithin around) t.children)
  | cases {around : List Tree} {t : Tree} (h : Within program around t) (hk : t.kind = .switchBody) :
      HasScope program (caseDeclarations (program.IsStrictWithin around) t.children)

/-! ## Strictness that is computed -/

theorem functionBlock?_eq_some_iff {f block : Tree} : f.functionBlock? = some block ↔ f.HasBlock block := by
  rw [functionBlock?, Option.filter_eq_some_iff, decide_eq_true_eq, HasBlock]

/-- A text between two characters. -/
theorem dropLast_tail_eq_iff {text inner : List Char} (h : inner ≠ []) :
    (text.drop 1).dropLast = inner ↔ ∃ a b, text = a :: inner ++ [b] := by
  constructor
  · intro heq
    cases text with
    | nil => exact absurd heq.symm h
    | cons a rest =>
      rw [List.drop_one, List.tail_cons] at heq
      have hrest : rest ≠ [] := by
        rintro rfl
        exact h heq.symm
      refine ⟨a, rest.getLast hrest, ?_⟩
      rw [← heq, List.cons_append, List.dropLast_concat_getLast hrest]
  · rintro ⟨a, b, rfl⟩
    simp

/-- The directives that are computed are those that statements start with. -/
theorem areStrict_iff {ts : List Tree} : areStrict ts ↔ StartsStrict ts := by
  induction ts with
  | nil => exact ⟨fun h => absurd h Bool.false_ne_true, nofun⟩
  | cons t ts ih =>
    constructor
    · intro h
      rw [areStrict.eq_def] at h
      simp only at h
      split at h
      next hk => exact .later (.inl hk) (ih.1 h)
      next hk => exact .later (.inr (.inl hk)) (ih.1 h)
      next hk => exact .later (.inr (.inr (.inl hk))) (ih.1 h)
      next hk =>
        split at h
        · cases h
        next literal hl =>
          split at h
          next hs =>
            rw [Bool.or_eq_true, beq_iff_eq] at h
            rcases h with h | h
            · obtain ⟨a, b, htext⟩ := (dropLast_tail_eq_iff (by decide)).1 h
              exact .directive ⟨hk, literal, hl, hs, htext⟩
            · exact .later (.inr (.inr (.inr ⟨_, hk, literal, hl, hs, rfl⟩))) (ih.1 h)
          next => cases h
      next => cases h
    · intro h
      cases h with
      | @directive _ _ a b h =>
        obtain ⟨hk, literal, hl, hs, htext⟩ := h
        have hstrict : (literal.text.drop 1).dropLast = useStrict :=
          (dropLast_tail_eq_iff (by decide)).2 ⟨a, b, htext⟩
        simp only [areStrict, hk, hl, hs, hstrict, if_true, beq_self_eq_true, Bool.true_or]
      | later h hs =>
        rw [← ih] at hs
        rcases h with hk | hk | hk | ⟨-, hk, literal, hl, hk', -⟩
        · simpa [areStrict, hk] using hs
        · simpa [areStrict, hk] using hs
        · simpa [areStrict, hk] using hs
        · simp [areStrict, hk, hl, hk', hs]

theorem makesStrict_iff {t : Tree} : t.makesStrict ↔ t.MakesStrict := by
  rw [makesStrict, Bool.or_eq_true, Bool.or_eq_true, Bool.and_eq_true, Option.any_eq_true, decide_eq_true_eq]
  simp only [functionBlock?_eq_some_iff, areStrict_iff]
  constructor
  · rintro ((hk | hk) | ⟨hf, block, hb, hs⟩)
    · exact .class hk
    · exact .staticBlock hk
    · exact .function hf hb hs
  · intro h
    cases h with
    | «class» hk => exact .inl (.inl hk)
    | staticBlock hk => exact .inl (.inr hk)
    | function hf hb hs => exact .inr ⟨hf, _, hb, hs⟩

theorem isStrictWithin_iff {program : Tree} {around : List Tree} :
    program.isStrictWithin around ↔ program.IsStrictWithin around := by
  simp only [isStrictWithin, Bool.or_eq_true, List.any_eq_true, areStrict_iff, makesStrict_iff, IsStrictWithin]

end Tree

/-! ## Clashes -/

namespace Scope

section Clash

variable {strict : Bool}

theorem clashAfter?_eq_none {vars : List (List Char)} {earlier bs : List Binding}
    (h : clashAfter? strict vars earlier bs = none) :
    (∀ b ∈ bs, b.name ∉ vars) ∧ (∀ a ∈ earlier, ∀ b ∈ bs, excludes strict a b = false)
      ∧ bs.Pairwise fun a b => excludes strict a b = false := by
  induction bs generalizing earlier with
  | nil => simp
  | cons b bs ih =>
    rw [clashAfter?] at h
    split at h
    · cases h
    next hb =>
      obtain ⟨hvars, hearlier, hpairwise⟩ := ih h
      rw [Bool.or_eq_true, not_or, List.contains_iff_mem, Bool.not_eq_true, List.any_eq_false] at hb
      refine ⟨List.forall_mem_cons.2 ⟨hb.2, hvars⟩, fun a ha => List.forall_mem_cons.2
        ⟨Bool.eq_false_iff.2 (hb.1 a ha), hearlier a (List.mem_cons_of_mem b ha)⟩, List.pairwise_cons.2 ⟨?_, hpairwise⟩⟩
      exact fun c hc => hearlier b List.mem_cons_self c hc

theorem clashAfter?_eq_some {vars : List (List Char)} {earlier bs : List Binding} {n : List Char}
    (h : clashAfter? strict vars earlier bs = some n) :
    (∃ b ∈ bs, b.name = n ∧ n ∈ vars) ∨ (∃ a ∈ earlier, ∃ b ∈ bs, b.name = n ∧ excludes strict a b)
      ∨ ∃ a b, [a, b].Sublist bs ∧ b.name = n ∧ excludes strict a b := by
  induction bs generalizing earlier with
  | nil => cases h
  | cons b bs ih =>
    rw [clashAfter?] at h
    split at h
    next hb =>
      cases h
      rw [Bool.or_eq_true, List.contains_iff_mem, List.any_eq_true] at hb
      rcases hb with ⟨a, ha, hab⟩ | hvar
      · exact .inr (.inl ⟨a, ha, b, List.mem_cons_self, rfl, hab⟩)
      · exact .inl ⟨b, List.mem_cons_self, rfl, hvar⟩
    next =>
      rcases ih h with ⟨c, hc, hn, hvar⟩ | ⟨a, ha, c, hc, hn, hex⟩ | ⟨a, c, hs, hn, hex⟩
      · exact .inl ⟨c, List.mem_cons_of_mem b hc, hn, hvar⟩
      · rcases List.mem_cons.1 ha with rfl | ha
        · exact .inr (.inr ⟨a, c, (List.singleton_sublist.2 hc).cons_cons a, hn, hex⟩)
        · exact .inr (.inl ⟨a, ha, c, List.mem_cons_of_mem b hc, hn, hex⟩)
      · exact .inr (.inr ⟨a, c, hs.cons b, hn, hex⟩)

end Clash

/-- A scope lists what is declared, and is checked as strict as it is where functions may be declared twice. -/
structure Lists (strict : Bool) (scope : Scope) (d : Declarations) : Prop where
  lexical (b : Binding) : b ∈ scope.lexical ↔ d.lexical b
  inOrder (a b : Binding) : [a, b].Sublist scope.lexical ↔ d.inOrder a b
  vars (n : List Char) : n ∈ scope.vars ↔ d.isVar n
  strictness (a b : Binding) (h : d.inOrder a b) (ha : a.isFunction) (hb : b.isFunction) : strict ↔ d.strict

section Lists

variable {strict : Bool} {scope : Scope} {d : Declarations} {n : List Char} (hl : scope.Lists strict d)
include hl

theorem Lists.excludes_iff {a b : Binding} (h : d.inOrder a b) :
    excludes strict a b ↔ a.name = b.name ∧ (d.strict ∨ ¬ (a.isFunction ∧ b.isFunction)) := by
  rw [Scope.excludes_iff]
  refine and_congr_right fun _ => ?_
  by_cases hf : a.isFunction ∧ b.isFunction
  · rw [hl.strictness a b h hf.1 hf.2]
  · exact iff_of_true (.inr hf) (.inr hf)

/-- In a scope without a clash, no name conflicts. -/
theorem Lists.not_conflicts (h : scope.clash? strict = none) : ¬ d.Conflicts n := by
  obtain ⟨hvars, -, hpairwise⟩ := clashAfter?_eq_none h
  rintro (⟨b, hb, hn, hv⟩ | ⟨a, b, hs, ha, hb, hex⟩)
  · exact hvars b ((hl.lexical b).2 hb) (hn ▸ (hl.vars n).2 hv)
  · have hfalse := List.pairwise_iff_forall_sublist.1 hpairwise ((hl.inOrder a b).2 hs)
    have htrue : excludes strict a b := (hl.excludes_iff hs).2 ⟨ha.trans hb.symm, hex⟩
    rw [htrue] at hfalse
    cases hfalse

/-- The clash of a scope is a name that conflicts. -/
theorem Lists.conflicts (h : scope.clash? strict = some n) : d.Conflicts n := by
  rcases clashAfter?_eq_some h with ⟨b, hb, hn, hv⟩ | ⟨a, ha, -⟩ | ⟨a, b, hs, hn, hex⟩
  · exact .inl ⟨b, (hl.lexical b).1 hb, hn, (hl.vars n).1 hv⟩
  · cases ha
  · have hs := (hl.inOrder a b).1 hs
    rw [hl.excludes_iff hs] at hex
    exact .inr ⟨a, b, hs, hex.1.trans hn, hn, hex.2⟩

end Lists
end Scope

namespace Tree

/-! ## The scopes that are collected -/

section Lists

variable {strict : Bool} {p : Prop} {bound : List Char → Prop} {parameter : Option Tree} {ts : List Tree}

/-- No function is declared lexically in a body, so strictness plays no part there. -/
theorem lists_ofFunction (hbound : ∀ n, n ∈ (parameter.map (·.boundNames)).getD [] ↔ bound n) :
    (Scope.ofFunction parameter ts).Lists strict (bodyDeclarations p bound ts) where
  lexical _ := mem_flatMap_lexicalOf
  inOrder _ _ := pair_sublist_flatMap_lexicalOf
  vars n := by
    simp only [Scope.ofFunction, bodyDeclarations, List.mem_append, hbound, mem_functionNames, mem_varNamesIn, or_assoc]
  strictness a b h ha := by
    have hmem : a ∈ ts.flatMap Scope.lexicalOf := (pair_sublist_flatMap_lexicalOf.2 h).subset List.mem_cons_self
    obtain ⟨t, -, hdeclares⟩ := mem_flatMap_lexicalOf.1 hmem
    cases hdeclares <;> cases ha

theorem lists_ofBlock (hstrict : strict ↔ p) (hbound : ∀ n, n ∈ (parameter.map (·.boundNames)).getD [] ↔ bound n) :
    (Scope.ofBlock parameter ts).Lists strict (blockDeclarations p bound ts) where
  lexical _ := mem_flatMap_lexicalInBlock
  inOrder _ _ := pair_sublist_flatMap_lexicalInBlock
  vars n := by simp only [Scope.ofBlock, blockDeclarations, List.mem_append, hbound, mem_varNamesIn]
  strictness _ _ _ _ _ := hstrict

theorem lists_ofCases (hstrict : strict ↔ p) : (Scope.ofCases ts).Lists strict (caseDeclarations p ts) where
  lexical _ := mem_flatMap_lexicalInBlock
  inOrder _ _ := pair_sublist_flatMap_lexicalInBlock
  vars _ := mem_varNamesIn
  strictness _ _ _ _ _ := hstrict

end Lists

section OwnScopes

variable {program t : Tree} {around : List Tree} {scope : Scope} {d : Declarations}

theorem mem_boundNames_part? {field : Field} {n : List Char} :
    n ∈ ((t.part? field).map (·.boundNames)).getD [] ↔ t.BindsAt field n := by
  rw [BindsAt]
  cases t.part? field <;> simp [mem_boundNames]

theorem mem_boundNames_parameters? {n : List Char} :
    n ∈ (t.parameters?.map (·.boundNames)).getD [] ↔ t.BindsParameter n := by
  rw [parameters?, BindsParameter, ← mem_boundNames_part?, ← mem_boundNames_part?]
  cases t.part? .parameters <;> simp

/-- A block that is not the body of a function makes a scope with what a handler catches. -/
theorem ownScope?_block (hk : t.kind = .statementBlock) (hb : ¬ IsBodyWithin around t) :
    ∃ caught : Option Tree, t.ownScope? (ownerWithin around t) = some (.ofBlock caught t.children)
      ∧ ∀ n, n ∈ (caught.map (·.boundNames)).getD [] ↔ CatchesWithin around n := by
  rw [ownScope?.eq_def, hk]
  cases around with
  | nil => exact ⟨none, rfl, by simp [CatchesWithin]⟩
  | cons parent around =>
    have hbody : (parent.kind.isFunction && decide (t.info.field = some .body)) = false :=
      Bool.eq_false_iff.2 fun h => hb ⟨parent, rfl, by simpa using h⟩
    rw [ownerWithin, ownerOf, hbody, if_neg Bool.false_ne_true]
    by_cases hc : parent.kind = .catchClause
    · refine ⟨parent.part? .parameter, by rw [if_pos hc]; rfl, fun n => ?_⟩
      simp [CatchesWithin, hc, mem_boundNames_part?]
    · exact ⟨none, by rw [if_neg hc]; rfl, by simp [CatchesWithin, hc]⟩

theorem ownScope?_body (hk : t.kind = .statementBlock) (hb : IsBodyWithin around t) :
    t.ownScope? (ownerWithin around t) = none := by
  obtain ⟨f, hf, hfunction, hbody⟩ := hb
  cases around with
  | nil => cases hf
  | cons parent around =>
    cases hf
    rw [ownScope?.eq_def, hk, ownerWithin, ownerOf, hfunction, hbody]
    rfl

/-- The scope that is collected at a node lists the declarations of a scope of the program. -/
theorem exists_hasScope (hw : Within program around t) (h : t.ownScope? (ownerWithin around t) = some scope) :
    ∃ d, program.HasScope d ∧ scope.Lists (t.kind.isFunction || program.isStrictWithin around) d := by
  by_cases hf : t.kind.isFunction
  · rw [ownScope?_function hf, Option.map_eq_some_iff] at h
    obtain ⟨block, hb, rfl⟩ := h
    exact ⟨_, .function hw hf (functionBlock?_eq_some_iff.1 hb), lists_ofFunction fun _ => mem_boundNames_parameters?⟩
  · rw [Bool.eq_false_iff.2 hf, Bool.false_or]
    by_cases hk : t.kind = .statementBlock
    · by_cases hb : IsBodyWithin around t
      · rw [ownScope?_body hk hb] at h
        cases h
      · obtain ⟨caught, hs, hcaught⟩ := ownScope?_block hk hb
        cases hs.symm.trans h
        exact ⟨_, .block hw hk hb, lists_ofBlock isStrictWithin_iff hcaught⟩
    · by_cases hk' : t.kind = .switchBody
      · rw [ownScope?.eq_def, hk'] at h
        cases h
        exact ⟨_, .cases hw hk', lists_ofCases isStrictWithin_iff⟩
      · rw [ownScope?_eq_none hf (not_or.2 ⟨hk, hk'⟩)] at h
        cases h

/-- The declarations of each scope of a program are listed by its own scope or by one that is collected at a node. -/
theorem HasScope.exists_ownScope? (h : program.HasScope d) :
    (Scope.ofFunction none program.children).Lists true d
      ∨ ∃ around t scope, Within program around t ∧ t.ownScope? (ownerWithin around t) = some scope
        ∧ scope.Lists (t.kind.isFunction || program.isStrictWithin around) d := by
  cases h with
  | program => exact .inl (lists_ofFunction fun _ => by simp)
  | @function around f block hw hf hb =>
    refine .inr ⟨around, f, _, hw, ?_, lists_ofFunction fun _ => mem_boundNames_parameters?⟩
    rw [ownScope?_function hf, functionBlock?_eq_some_iff.2 hb, Option.map_some]
  | @block around t hw hk hb =>
    obtain ⟨caught, hs, hcaught⟩ := ownScope?_block hk hb
    refine .inr ⟨around, t, _, hw, hs, lists_ofBlock ?_ hcaught⟩
    rw [hk]
    exact isStrictWithin_iff
  | @cases around t hw hk =>
    refine .inr ⟨around, t, .ofCases t.children, hw, ?_, lists_ofCases ?_⟩
    · rw [ownScope?.eq_def, hk]
      rfl
    · rw [hk]
      exact isStrictWithin_iff

end OwnScopes

/-- In a program without offence no name is declared twice in a scope, and a name that is reported is declared twice in
a scope of the program. -/
theorem scopes_of_programViolation? (program : Tree) :
    (program.programViolation? = none → ∀ d, program.HasScope d → ∀ n, ¬ d.Conflicts n)
      ∧ ∀ n, program.programViolation? = some (.redeclared n) → ∃ d, program.HasScope d ∧ d.Conflicts n := by
  refine ⟨fun h d hd n => ?_, fun n h => ?_⟩
  · have hobeys := programViolation?_eq_none_iff_obeys.1 h
    rcases hd.exists_ownScope? with hl | ⟨around, t, scope, hw, hs, hl⟩
    · exact hl.not_conflicts (scopeViolation?_eq_none.1 hobeys.scope)
    · have hclash := clash?_eq_none_of_ownViolation? hs (hobeys.nodes around t hw rfl)
      rw [strict_contextWithin] at hclash
      exact hl.not_conflicts hclash
  · rcases programViolation?_eq_some h with h | ⟨around, t, hw, h⟩
    · exact ⟨_, .program, (lists_ofFunction fun _ => by simp).conflicts (scopeViolation?_eq_redeclared.1 h)⟩
    · obtain ⟨scope, hs, hclash⟩ := exists_clash?_of_redeclared h
      rw [strict_contextWithin] at hclash
      obtain ⟨d, hd, hl⟩ := exists_hasScope hw hs
      exact ⟨d, hd, hl.conflicts hclash⟩

end Tree
end Bookmarklet.Script
