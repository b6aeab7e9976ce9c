import Bookmarklet.Proofs.Script.Acceptance
import Bookmarklet.Proofs.Script.Surroundings

/-!
# Module syntax and markup

A function body holds neither `import` and `export` statements nor markup, while the grammar has them wherever a
statement or an expression may stand. The walk over a program reaches every node and refuses markup at each of them
(`Tree.ownViolation?_eq_none_of_foreign`). Module syntax is looked for among the statements of the program itself and
nowhere else (`Tree.moduleViolation?_eq_none_iff`).

So a clean parse that commits no other offence is accepted if and only if no node at any depth is markup and no
statement at the top level is one of a module (`check_eq_ok_iff_foreign`): a module statement in a block, in a function
or under a label is accepted.
-/

namespace Bookmarklet.Script

namespace Kind

/-- Statements that modules alone have. -/
def isModuleStatement : Kind → Bool
  | .importStatement | .exportStatement => true
  | _ => false

/-- Syntax that no function body has. -/
def isForeign (k : Kind) : Bool := k.isModuleStatement || k.isMarkup

end Kind

namespace Tree

variable {t : Tree}

/-- A program has no module syntax at the top level if and only if none of its own statements is one of a module. -/
theorem moduleViolation?_eq_none_iff :
    t.moduleViolation? = none ↔ ∀ c ∈ t.children, c.kind.isModuleStatement = false := by
  rw [moduleViolation?, List.findSome?_eq_none_iff]
  refine forall₂_congr fun c _ => ?_
  unfold Kind.isModuleStatement
  split <;> simp_all

/-- Of foreign syntax, markup is an offence wherever it stands, and module syntax is none. -/
theorem ownViolation?_eq_none_of_foreign (h : t.kind.isForeign) (c : Context) (owner : Owner) :
    t.ownViolation? c owner = none ↔ t.kind.isMarkup = false := by
  cases hm : t.kind.isMarkup with
  | true => simp [ownViolation?, hm]
  | false =>
    rw [Kind.isForeign, hm, Bool.or_false] at h
    have hk : t.kind = .importStatement ∨ t.kind = .exportStatement := by
      revert h
      cases t.kind <;> simp [Kind.isModuleStatement]
    rcases hk with hk | hk <;> simp [ownViolation?, hk, Kind.isMarkup, Kind.isFunction]

/-- The statements of a program are what stands in it with nothing around. -/
theorem within_nil_iff {program : Tree} : Within program [] t ↔ t ∈ program.children :=
  ⟨fun h => by cases h; assumption, .top⟩

end Tree

/-- A source is accepted if and only if it parses without faults into a tree whose other nodes commit no offence, and
there is no markup at any depth and no module syntax at the top level. -/
theorem check_eq_ok_iff_foreign {source : List Char} {t : Tree} :
    check source = .ok t ↔ parse source = some t ∧ t.info.faulty = false ∧ t.ObeysExcept Kind.isForeign ∧
      ∀ around u, Tree.Within t around u →
        u.kind.isMarkup = false ∧ (around = [] → u.kind.isModuleStatement = false) := by
  rw [check_eq_ok_iff, Tree.refusal?_eq_none_iff]
  refine and_congr_right fun _ => and_congr_right fun _ => ?_
  constructor
  · rintro ⟨hmodule, hnone⟩
    have hobeys := Tree.programViolation?_eq_none_iff_obeys.1 hnone
    refine ⟨⟨hobeys.scope, fun around u hw _ => hobeys.nodes around u hw rfl⟩, fun around u hw => ⟨?_, ?_⟩⟩
    · cases hm : u.kind.isMarkup with
      | false => rfl
      | true =>
        have hforeign : u.kind.isForeign := by simp [Kind.isForeign, hm]
        rw [← hm]
        exact (Tree.ownViolation?_eq_none_of_foreign hforeign _ _).1 (hobeys.nodes around u hw rfl)
    · rintro rfl
      exact Tree.moduleViolation?_eq_none_iff.1 hmodule u (Tree.within_nil_iff.1 hw)
  · rintro ⟨hobeys, hforeign⟩
    refine ⟨Tree.moduleViolation?_eq_none_iff.2 fun u hu => (hforeign [] u (.top hu)).2 rfl, ?_⟩
    rw [Tree.programViolation?_eq_none_iff hobeys]
    intro around u hw hk
    exact (Tree.ownViolation?_eq_none_of_foreign hk _ _).2 (hforeign around u hw).1

/-- A module statement in a block is not looked for, so an accepted source may contain one. -/
theorem not_forall_check_isForeign :
    ¬ ∀ (source : List Char) (t : Tree), check source = .ok t →
      ∀ around u, Tree.Within t around u → u.kind.isForeign = false := by
  intro hall
  have h : (check "\x7b import a from 'b' \x7d".toList).toOption.any
      (fun t => t.sitesBelow.any fun s => s.2.kind.isForeign) = true := by decide +kernel
  obtain ⟨t, ht, htest⟩ := exists_of_any_check h
  obtain ⟨s, hs, hforeign⟩ := List.any_eq_true.1 htest
  rw [hall _ t ht s.1 s.2 (Tree.mem_sitesBelow.1 hs)] at hforeign
  cases hforeign

end Bookmarklet.Script
