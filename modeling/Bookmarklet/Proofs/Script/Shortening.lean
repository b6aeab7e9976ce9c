import Bookmarklet.Proofs.Script.Layout
import Bookmarklet.Proofs.Script.Preservation

/-!
# Shorter names in scripts that are accepted

For a script that is accepted, the plan preserves binding if and only if it changes no name that is free in its
function (`Tree.preservesBinding_of_check`). A function owns the names that change in it if its parameters or its body
declare them, and the parameter list does not name what only the body declares (`Tree.OwnsLocals`); a plan for such
functions preserves binding (`Tree.preservesBinding_of_ownsLocals`).
-/

namespace Bookmarklet.Script

namespace Tree

open Plan

/-! ## Functions that own what changes in them -/

/-- Every name that changes in a function is declared there: by its parameters, or by its body and then the parameter
list does not spell it. -/
def OwnsLocals (function : Tree) : Prop :=
  ∀ survey bound, function.locals? = some (survey, bound) →
    ∀ x ∈ nameLeavesIn function.localParts, x.1.kind = .identifier → ((mapping survey bound).lookup x.2).isSome →
      x.2 ∈ function.parameterNames.map unescape
        ∨ (x.2 ∈ (function.bodyFrames []).flatMap (·.names)
          ∧ ∀ p ∈ function.parameters?, x.2 ∉ p.nameLeaves.map (·.2))

instance (function : Tree) : Decidable function.EscapesApart :=
  match h : function.locals? with
  | none => .isTrue fun _ _ h' => by
    rw [h] at h'
    cases h'
  | some (survey, bound) =>
    decidable_of_iff (∀ x ∈ nameLeavesIn function.localParts, '\\' ∈ x.2 →
        (mapping survey bound).lookup x.2 = none ∧ (mapping survey bound).lookup (unescape x.2) = none
          ∧ unescape x.2 ∉ (mapping survey bound).map (·.2))
      ⟨fun hx _ _ h' => by
        rw [h] at h'
        cases h'
        exact hx, fun hx => hx survey bound h⟩

section Declared

/-- A name that one of some scopes declares is found. -/
theorem isSome_lookUp {name : List Char} {frames : List Frame} (h : name ∈ frames.flatMap (·.names)) :
    (lookUp name frames).isSome := by
  induction frames with
  | nil => cases h
  | cons f frames ih =>
    rw [lookUp]
    cases hf : f.names.idxOf? name with
    | some i => rfl
    | none =>
      rw [List.flatMap_cons, List.mem_append] at h
      refine ih (h.resolve_left fun hm => ?_)
      rw [List.idxOf?_eq_none_iff] at hf
      exact hf hm

theorem isSome_lookUp_append {name : List Char} (inner : List Frame) {own : List Frame}
    (h : (lookUp name own).isSome) : (lookUp name (inner ++ own)).isSome := by
  induction inner with
  | nil => exact h
  | cons f inner ih =>
    rw [List.cons_append, lookUp]
    cases f.names.idxOf? name with
    | some i => rfl
    | none => exact ih

/-- The names that scopes declare do not depend on where these are. -/
theorem names_bodyFrames (path : List Nat) (t : Tree) :
    (t.bodyFrames path).flatMap (·.names) = (t.bodyFrames []).flatMap (·.names) := by
  rw [bodyFrames, bodyFrames]
  split <;> rfl

theorem mem_bodyFrames {name : List Char} {path : List Nat} {t : Tree} (h : name ∈ t.parameterNames.map unescape) :
    name ∈ (t.bodyFrames path).flatMap (·.names) := by
  refine List.mem_flatMap.2 ⟨parameterFrame path t, ?_, h⟩
  rw [bodyFrames]
  split <;> simp

/-- Inside a tree that can be surveyed, a name that is declared around it is not free. -/
theorem isFree_eq_false : ∀ {t : Tree}, t.survey?.isSome → ∀ {isBody : Bool} {own outer : List Frame}
    {path : List Nat} {o : Occurrence}, o ∈ t.occurrencesFrom isBody ⟨own, outer⟩ path →
    (lookUp o.name own).isSome → o.isFree = false
  | leaf info text, _, isBody, own, outer, path, o, ho, hl => by
    rw [occurrencesFrom] at ho
    split at ho
    · cases List.mem_singleton.1 ho
      rw [Env.resolve] at hl ⊢
      simp only at hl ⊢
      rw [Option.isNone_eq_false_iff]
      exact hl
    · cases ho
  | node info children, hs, isBody, own, outer, path, o, ho, hl => by
    rw [survey?] at hs
    split at hs
    · cases hs
    next hobstacle =>
      simp only [isObstacle, Bool.or_eq_true, not_or, Bool.not_eq_true] at hobstacle
      rw [occurrencesFrom] at ho
      obtain ⟨i, c, hi, ho⟩ := exists_of_mem_occurrencesIn ho
      have hmem := List.mem_of_getElem? hi
      rw [envBelow_of_plain (t := node info children) hobstacle.1.1.1 hobstacle.1.1.2] at ho
      exact isFree_eq_false (survey?_of_mem hs c hmem) ho (isSome_lookUp_append _ hl)
termination_by t => sizeOf t
decreasing_by
  have := List.sizeOf_lt_of_mem hmem
  simp
  omega

/-- A place where a variable is named is a leaf that names it. -/
theorem exists_leaf_of_mem {t : Tree} {isBody : Bool} {env : Env} {path : List Nat} {o : Occurrence}
    (h : o ∈ t.occurrencesFrom isBody env path) :
    ∃ x ∈ t.nameLeaves, x.1.start.byte = o.start ∧ unescape x.2 = o.name := by
  have hm : (o.start, o.name) ∈ t.nameLeaves.map fun x => (x.1.start.byte, unescape x.2) := by
    rw [← names_occurrencesFrom t isBody env path]
    exact List.mem_map_of_mem h
  obtain ⟨x, hx, heq⟩ := List.mem_map.1 hm
  obtain ⟨hstart, hname⟩ := Prod.mk.inj heq
  exact ⟨x, hx, hstart, hname⟩

/-- In a function that owns what changes in it, no name changes that is free. -/
theorem lookup_eq_none_of_isFree {plan : Plan} : ∀ {t : Tree}, Keeps plan t →
    (∀ f ∈ t.functions, f.EscapesApart ∧ f.OwnsLocals) → ∀ {isBody : Bool} {env : Env} {path : List Nat}
    {o : Occurrence}, o ∈ t.occurrencesFrom isBody env path → o.isFree → plan.lookup o.start = none
  | leaf info text, h, _, isBody, env, path, o, ho, _ => by
    obtain ⟨x, hx, hstart, -⟩ := exists_leaf_of_mem ho
    rw [← hstart]
    exact h.lookup _ (List.mem_map_of_mem hx)
  | node info children, h, hf, isBody, env, path, o, ho, hfree => by
    rw [occurrencesFrom] at ho
    obtain ⟨i, c, hi, ho⟩ := exists_of_mem_occurrencesIn ho
    rw [Nat.zero_add] at ho
    have hmem := List.mem_of_getElem? hi
    by_cases hl : info.kind.isFunction → (node info children).locals?.isSome → ¬ (node info children).isLocalPart i
    · exact lookup_eq_none_of_isFree (h.child hi hl)
        (fun f hc => hf f (List.mem_append_right _ (mem_functionsIn hc hmem))) ho hfree
    · obtain ⟨hfunction, hsome, hp⟩ : info.kind.isFunction ∧ (node info children).locals?.isSome
          ∧ (node info children).isLocalPart i := by
        simpa only [Classical.not_imp, Classical.not_not] using hl
      obtain ⟨⟨survey, bound⟩, hlocals⟩ := Option.isSome_iff_exists.1 hsome
      obtain ⟨happart, howns⟩ := hf (node info children)
        (List.mem_append_left _ (by rw [if_pos hfunction]; exact List.mem_singleton_self _))
      obtain ⟨x, hx, hstart, hname⟩ := exists_leaf_of_mem ho
      have hx' : x ∈ nameLeavesIn (node info children).localParts :=
        mem_nameLeavesIn.2 ⟨c, mem_localParts.2 ⟨i, hp, hi⟩, hx⟩
      rw [← hstart]
      cases hnew : plan.lookup x.1.start.byte with
      | none => rfl
      | some new =>
        -- The name changes, so it is an identifier that the function's own mapping has, and is declared there.
        have hin : x ∈ (node info children).nameLeaves := mem_nameLeavesIn.2 ⟨c, hmem, hx⟩
        have hown : (node info children).plan.lookup x.1.start.byte = some new := by
          rw [← h.lookup _ (List.mem_map_of_mem hin), hnew]
        obtain ⟨y, hy, hk, hys⟩ := plan_identifier (List.mem_map.2 ⟨_, mem_of_lookup_eq_some hown, rfl⟩)
        obtain rfl : y = x := List.inj_on_of_nodup_map h.nodup hy hin hys
        rw [h.localPart hi hfunction hlocals hp hx hk] at hnew
        have hplain : '\\' ∉ y.2 := fun hescape => by
          rw [(happart survey bound hlocals y hx' hescape).1] at hnew
          cases hnew
        rw [unescape_of_plain hplain] at hname
        have hdeclared := howns survey bound hlocals y hx' hk (Option.isSome_of_eq_some hnew)
        have hfound : (lookUp y.2 ((node info children).envBelow isBody env path i).own).isSome := by
          refine isSome_lookUp ?_
          rw [envBelow, if_pos (show (node info children).kind.isFunction from hfunction)]
          by_cases hb : (node info children).partIndex? .body = some i
          · rw [if_pos hb]
            show y.2 ∈ ((node info children).bodyFrames path).flatMap (·.names)
            rcases hdeclared with hparameter | ⟨hbody, -⟩
            · exact mem_bodyFrames hparameter
            · rwa [names_bodyFrames]
          · have hparameters := hp.resolve_left hb
            rw [if_neg hb, if_pos hparameters]
            show y.2 ∈ [parameterFrame path (node info children)].flatMap (·.names)
            rcases hdeclared with hparameter | ⟨-, hnot⟩
            · simpa [parameterFrame, frame] using hparameter
            · refine absurd (List.mem_map_of_mem hx) (hnot c ?_)
              rw [parameters?_eq, hparameters]
              exact hi
        have hsurvey := survey?_of_mem (Option.isSome_of_eq_some (locals?_eq_some hlocals)) c
          (mem_localParts.2 ⟨i, hp, hi⟩)
        rw [isFree_eq_false hsurvey ho (hname ▸ hfound)] at hfree
        cases hfree
termination_by t => sizeOf t
decreasing_by
  have := List.sizeOf_lt_of_mem hmem
  simp
  omega

end Declared

/-- A plan preserves binding if every function owns what changes in it. -/
theorem preservesBinding_of_ownsLocals {t : Tree} (hn : t.nameStarts.Nodup)
    (hf : ∀ f ∈ t.functions, f.EscapesApart ∧ f.OwnsLocals) :
    PreservesBinding t.occurrences (t.rename t.plan).occurrences :=
  (preservesBinding_iff hn fun f h => (hf f h).1).2 fun _ ho hfree =>
    lookup_eq_none_of_isFree ⟨hn, fun _ _ => rfl⟩ hf ho hfree

/-! ## Scripts that are accepted -/

/-- The plan of a script that is accepted preserves binding if and only if it changes no name that is free in its
function; it does so if every function owns what changes in it. -/
theorem preservesBinding_of_check {source : List Char} {t : Tree} (h : check source = .ok t)
    (he : ∀ f ∈ t.functions, f.EscapesApart) :
    (PreservesBinding t.occurrences (t.rename t.plan).occurrences ↔
        ∀ o ∈ t.occurrences, o.isFree → t.plan.lookup o.start = none)
      ∧ ((∀ f ∈ t.functions, f.OwnsLocals) → PreservesBinding t.occurrences (t.rename t.plan).occurrences) := by
  have hn := nodup_nameStarts_of_check h
  exact ⟨preservesBinding_iff hn he, fun ho => preservesBinding_of_ownsLocals hn fun f hf => ⟨he f hf, ho f hf⟩⟩

theorem preservesBinding_of_check_parameter : ∃ t, check "function f(value) \x7b return value \x7d".toList = .ok t
    ∧ (∀ f ∈ t.functions, f.EscapesApart) ∧ t.plan.length = 2
    ∧ PreservesBinding t.occurrences (t.rename t.plan).occurrences := by
  have h : (check "function f(value) \x7b return value \x7d".toList).toOption.any (fun t =>
      t.functions.all (fun f => decide f.EscapesApart) && t.plan.length = 2
        && t.occurrences.all fun o => !o.isFree || t.plan.lookup o.start = none) = true := by decide +kernel
  obtain ⟨t, ht, hall⟩ := exists_of_any_check h
  simp only [Bool.and_eq_true, List.all_eq_true, decide_eq_true_eq, Bool.or_eq_true, Bool.not_eq_true'] at hall
  obtain ⟨⟨hescapes, hplan⟩, hfree⟩ := hall
  refine ⟨t, ht, hescapes, hplan, (preservesBinding_of_check ht hescapes).1.2 fun o ho hf => ?_⟩
  exact (hfree o ho).resolve_left fun h => by
    rw [hf] at h
    cases h

/-- A default value inside a parameter pattern is renamed along with a local of the body. -/
theorem not_preservesBinding_default : ∃ t,
    check "function f(\x7bk = value\x7d) \x7b var value = 1; return k + value \x7d".toList = .ok t
      ∧ (∀ f ∈ t.functions, f.EscapesApart) ∧ ¬ PreservesBinding t.occurrences (t.rename t.plan).occurrences := by
  have h : (check "function f(\x7bk = value\x7d) \x7b var value = 1; return k + value \x7d".toList).toOption.any (fun t =>
      t.functions.all (fun f => decide f.EscapesApart)
        && (t.occurrences.zip (t.rename t.plan).occurrences).any fun x => x.1.isFree && x.2.name != x.1.name) = true := by
    decide +kernel
  obtain ⟨t, ht, hall⟩ := exists_of_any_check h
  simp only [Bool.and_eq_true, List.all_eq_true, List.any_eq_true, decide_eq_true_eq, bne_iff_ne] at hall
  obtain ⟨hescapes, x, hx, hfree, hne⟩ := hall
  exact ⟨t, ht, hescapes, fun hp => hne (hp.names x hx hfree)⟩

/-- A local that is written with an escape in one place keeps that spelling while its declaration is renamed. -/
theorem not_preservesBinding_escape : ∃ t,
    check "function f() \x7b var value = 1; return v\\u0061lue \x7d".toList = .ok t
      ∧ (∀ o ∈ t.occurrences, o.isFree → t.plan.lookup o.start = none)
      ∧ ¬ PreservesBinding t.occurrences (t.rename t.plan).occurrences := by
  have h : (check "function f() \x7b var value = 1; return v\\u0061lue \x7d".toList).toOption.any (fun t =>
      (t.occurrences.all fun o => !o.isFree || t.plan.lookup o.start = none)
        && (t.occurrences.zip (t.rename t.plan).occurrences).any fun x =>
          (t.occurrences.zip (t.rename t.plan).occurrences).any fun y =>
            x.1.declaration = y.1.declaration && x.2.declaration != y.2.declaration) = true := by
    decide +kernel
  obtain ⟨t, ht, hall⟩ := exists_of_any_check h
  simp only [Bool.and_eq_true, List.all_eq_true, List.any_eq_true, decide_eq_true_eq, Bool.or_eq_true,
    Bool.not_eq_true', bne_iff_ne] at hall
  obtain ⟨hfree, x, hx, y, hy, hsame, hne⟩ := hall
  refine ⟨t, ht, fun o ho hf => (hfree o ho).resolve_left fun h => ?_, fun hp => ?_⟩
  · rw [hf] at h
    cases h
  · exact hne ((hp.declarations x hx y hy).1 hsame)

end Tree
end Bookmarklet.Script
