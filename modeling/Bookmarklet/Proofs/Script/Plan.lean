import Bookmarklet.Proofs.Lookup
import Bookmarklet.Proofs.Script.Binding
import Bookmarklet.Proofs.Script.FreshName

/-!
# What plans hold

* New names are different from each other, and from all names that a function spells (`Plan.mapping_values_nodup`,
  `Plan.not_mem_of_mapping_value`); no name changes that is reserved or given to a property of the same name
  (`Plan.mapping_keys`).
* The plan of a tree names places of its identifiers only (`Tree.plan_identifier`). Where no two names start at one byte, it
  has, for an identifier of a function that is simple enough, the new name that the function gives to what it spells
  (`Tree.Keeps.localPart`).
-/

namespace Bookmarklet.Script

namespace Plan

/-! ## New names -/

section Assign

variable {taken : List (List Char)}

theorem assign_keys (taken : List (List Char)) (names : List (List Char)) (n : Nat) :
    ((assign taken n names).map (·.1)).Sublist names := by
  induction names generalizing n with
  | nil => exact List.Sublist.slnil
  | cons name names ih =>
    rw [assign]
    split
    · exact (ih _).cons_cons name
    · exact (ih _).cons name

/-- A new name is one that is not taken, and has a number that has not been used. -/
theorem assign_values (names : List (List Char)) (n : Nat) : ∀ e ∈ assign taken n names,
    ∃ k, n ≤ k ∧ e.2 = FreshName.spell k ∧ FreshName.spell k ∉ taken := by
  induction names generalizing n with
  | nil => exact fun e h => absurd h List.not_mem_nil
  | cons name names ih =>
    intro e h
    have hle := FreshName.le_next taken n
    rw [assign] at h
    split at h
    · rcases List.mem_cons.1 h with rfl | h
      · exact ⟨_, hle, rfl, FreshName.spell_next taken n⟩
      · obtain ⟨k, hk, hspell⟩ := ih _ e h
        exact ⟨k, by omega, hspell⟩
    · obtain ⟨k, hk, hspell⟩ := ih _ e h
      exact ⟨k, by omega, hspell⟩

theorem assign_values_nodup (names : List (List Char)) (n : Nat) :
    ((assign taken n names).map (·.2)).Nodup := by
  induction names generalizing n with
  | nil => exact List.nodup_nil
  | cons name names ih =>
    rw [assign]
    split
    · refine List.nodup_cons.2 ⟨?_, ih _⟩
      intro h
      obtain ⟨e, he, heq⟩ := List.mem_map.1 h
      obtain ⟨k, hk, hspell, -⟩ := assign_values names _ e he
      have := FreshName.spell_injective _ _ (hspell.symm.trans heq)
      omega
    · exact ih _

end Assign

/-- Names that are added one by one stay different. -/
theorem nodup_addName {found : List (List Char)} (name : List Char) (h : found.Nodup) :
    (addName found name).Nodup := by
  unfold addName
  split
  · exact h
  next hc =>
    refine List.nodup_append.2 ⟨h, by simp, ?_⟩
    intro a ha b hb
    rintro rfl
    rw [List.mem_singleton.1 hb] at ha
    exact hc (by simpa using ha)

theorem nodup_foldl_addName (names : List (List Char)) {found : List (List Char)} (h : found.Nodup) :
    (names.foldl addName found).Nodup := by
  induction names generalizing found with
  | nil => exact h
  | cons name names ih => exact ih (nodup_addName name h)

section Mapping

variable (survey : Survey) (bound : List (List Char))

theorem mapping_keys_nodup : ((mapping survey bound).map (·.1)).Nodup :=
  ((nodup_foldl_addName bound List.nodup_nil).filter _).sublist (assign_keys _ _ _)

theorem mapping_values_nodup : ((mapping survey bound).map (·.2)).Nodup := assign_values_nodup _ _

/-- No name changes that a property has from a variable, or that is reserved. -/
theorem mapping_keys {name : List Char} (h : name ∈ (mapping survey bound).map (·.1)) :
    name ∉ survey.shorthands ∧ name ∉ reserved := by
  have hm := (List.mem_filter.1 ((assign_keys _ _ _).subset h)).2
  simpa using hm

/-- A new name is spelled nowhere in the function, and is not reserved. -/
theorem not_mem_of_mapping_value {name : List Char} (h : name ∈ (mapping survey bound).map (·.2)) :
    name ∉ survey.names ∧ name ∉ reserved := by
  obtain ⟨e, he, rfl⟩ := List.mem_map.1 h
  obtain ⟨k, -, hspell, hk⟩ := assign_values _ _ e he
  rw [hspell]
  exact ⟨fun hm => hk (List.mem_append_left _ hm), fun hm => hk (List.mem_append_right _ hm)⟩

end Mapping
end Plan

/-! ## The names in a tree -/

namespace Tree

open Plan

mutual
/-- The leaves of a tree that name variables. -/
def nameLeaves : Tree → List (Info × List Char)
  | leaf info text => if info.kind.namesVariable then [(info, text)] else []
  | node _ children => nameLeavesIn children

/-- The leaves of some trees that name variables. -/
def nameLeavesIn : List Tree → List (Info × List Char)
  | [] => []
  | t :: ts => t.nameLeaves ++ nameLeavesIn ts
end

/-- The bytes at which the names of variables start. -/
def nameStarts (t : Tree) : List Nat := t.nameLeaves.map (·.1.start.byte)

theorem nameLeavesIn_eq_flatMap (ts : List Tree) : nameLeavesIn ts = ts.flatMap nameLeaves := by
  induction ts with
  | nil => rfl
  | cons t ts ih => rw [nameLeavesIn, ih, List.flatMap_cons]

theorem mem_nameLeavesIn {ts : List Tree} {x : Info × List Char} :
    x ∈ nameLeavesIn ts ↔ ∃ t ∈ ts, x ∈ t.nameLeaves := by
  rw [nameLeavesIn_eq_flatMap, List.mem_flatMap]

/-! ## Surveys -/

/-- What a survey tells of the names of variables. -/
structure Surveys (leaves : List (Info × List Char)) (survey : Survey) : Prop where
  identifiers : ∀ start name, (start, name) ∈ survey.identifiers ↔
    ∃ info, (info, name) ∈ leaves ∧ info.kind = .identifier ∧ info.start.byte = start
  shorthands : ∀ info name, (info, name) ∈ leaves → info.kind ≠ .identifier → name ∈ survey.shorthands

theorem Surveys.append {l m : List (Info × List Char)} {a b : Survey} (ha : Surveys l a) (hb : Surveys m b) :
    Surveys (l ++ m) (a.append b) where
  identifiers start name := by
    simp only [Survey.append, List.mem_append, ha.identifiers, hb.identifiers, or_and_right, exists_or]
  shorthands info name h hk := by
    rcases List.mem_append.1 h with h | h
    · exact List.mem_append_left _ (ha.shorthands info name h hk)
    · exact List.mem_append_right _ (hb.shorthands info name h hk)

/-- Every name of a variable is among the names of a survey. -/
theorem Surveys.names {l : List (Info × List Char)} {s : Survey} (h : Surveys l s) {info : Info} {name : List Char}
    (hm : (info, name) ∈ l) : name ∈ s.names := by
  by_cases hk : info.kind = .identifier
  · have := (h.identifiers info.start.byte name).2 ⟨info, hm, hk, rfl⟩
    exact List.mem_append_left _ (List.mem_append_left _ (List.mem_map_of_mem this))
  · exact List.mem_append_left _ (List.mem_append_right _ (h.shorthands info name hm hk))

theorem surveys_ofLeaf {info : Info} {text : List Char} {s : Survey} (h : Survey.ofLeaf info text = some s) :
    Surveys (nameLeaves (leaf info text)) s := by
  have hnone (hk : info.kind.namesVariable = false) (others : List (List Char)) :
      Surveys (nameLeaves (leaf info text)) ⟨[], [], others⟩ := by
    rw [nameLeaves, hk]
    exact ⟨fun _ _ => by simp, fun _ _ h => by cases h⟩
  have hshorthand (hk : info.kind.namesVariable) (hne : info.kind ≠ .identifier) :
      Surveys (nameLeaves (leaf info text)) ⟨[], [text], []⟩ := by
    rw [nameLeaves, if_pos hk]
    refine ⟨fun start name => ?_, fun i name hm _ => ?_⟩
    · simp only [List.not_mem_nil, List.mem_singleton, Prod.mk.injEq, false_iff]
      rintro ⟨i, ⟨rfl, -⟩, hk, -⟩
      exact hne hk
    · cases List.mem_singleton.1 hm
      exact List.mem_singleton_self text
  rw [Survey.ofLeaf] at h
  split at h
  next hk =>
    split at h
    · cases h
    · cases h
      rw [nameLeaves, if_pos (by simp [Kind.namesVariable, hk])]
      refine ⟨fun start name => ?_, fun i name hm hne => ?_⟩
      · simp only [List.mem_singleton, Prod.mk.injEq]
        constructor
        · rintro ⟨rfl, rfl⟩
          exact ⟨info, ⟨rfl, rfl⟩, hk, rfl⟩
        · rintro ⟨i, ⟨rfl, rfl⟩, -, rfl⟩
          exact ⟨rfl, rfl⟩
      · cases List.mem_singleton.1 hm
        exact absurd hk hne
  next hk =>
    cases h
    exact hshorthand (by rw [hk]; rfl) (by rw [hk]; decide)
  next hk =>
    cases h
    exact hshorthand (by rw [hk]; rfl) (by rw [hk]; decide)
  next hk =>
    cases h
    exact hnone (by rw [hk]; rfl) [text]
  next hk =>
    cases h
    exact hnone (by rw [hk]; rfl) [text]
  next =>
    cases h
    refine hnone ?_ []
    unfold Kind.namesVariable
    split <;> simp_all

mutual
theorem surveys_of_survey? : ∀ {t : Tree} {s : Survey}, t.survey? = some s → Surveys t.nameLeaves s
  | leaf info text, s, h => by
    rw [survey?] at h
    split at h
    · cases h
    · exact surveys_ofLeaf h
  | node info children, s, h => by
    rw [survey?] at h
    split at h
    · cases h
    · exact surveys_of_surveyIn? h

theorem surveys_of_surveyIn? : ∀ {ts : List Tree} {s : Survey}, surveyIn? ts = some s → Surveys (nameLeavesIn ts) s
  | [], s, h => by
    cases h
    exact ⟨fun _ _ => by simp [Survey.empty, nameLeavesIn], fun _ _ h => by cases h⟩
  | t :: ts, s, h => by
    rw [surveyIn?] at h
    split at h
    next ha hb =>
      cases h
      exact (surveys_of_survey? ha).append (surveys_of_surveyIn? hb)
    next => cases h
end

mutual
/-- There is no function in what can be surveyed. -/
theorem plan_of_survey? : ∀ {t : Tree}, t.survey?.isSome → t.plan = []
  | leaf _ _, _ => rfl
  | node info children, h => by
    rw [survey?] at h
    split at h
    · cases h
    next ho =>
      have hf : info.kind.isFunction = false := by
        simp only [isObstacle, Bool.or_eq_true, not_or, Bool.not_eq_true] at ho
        exact ho.1.1.1
      rw [plan, hf, planIn_of_surveyIn? h]
      rfl

theorem planIn_of_surveyIn? : ∀ {ts : List Tree}, (surveyIn? ts).isSome → planIn ts = []
  | [], _ => rfl
  | t :: ts, h => by
    rw [surveyIn?] at h
    split at h
    next ha hb =>
      rw [planIn, plan_of_survey? (Option.isSome_of_eq_some ha), planIn_of_surveyIn? (Option.isSome_of_eq_some hb)]
      rfl
    next => cases h
end

theorem survey?_of_mem {ts : List Tree} (h : (surveyIn? ts).isSome) : ∀ t ∈ ts, t.survey?.isSome := by
  induction ts with
  | nil => exact fun t hm => absurd hm List.not_mem_nil
  | cons u us ih =>
    intro t hm
    rw [surveyIn?] at h
    split at h
    next ha hb =>
      rcases List.mem_cons.1 hm with rfl | hm
      · exact Option.isSome_of_eq_some ha
      · exact ih (Option.isSome_of_eq_some hb) t hm
    next => cases h

/-! ## Parts by number -/

theorem find?_eq_bind_findIdx? {α : Type} (p : α → Bool) (l : List α) :
    l.find? p = (l.findIdx? p).bind (l[·]?) := by
  induction l with
  | nil => rfl
  | cons a l ih =>
    rw [List.find?_cons, List.findIdx?_cons, ih]
    cases p a with
    | true => rfl
    | false => cases l.findIdx? p <;> rfl

theorem part?_eq (t : Tree) (field : Field) : t.part? field = (t.partIndex? field).bind (t.children[·]?) :=
  find?_eq_bind_findIdx? _ _

theorem parameters?_eq (t : Tree) : t.parameters? = t.parametersIndex?.bind (t.children[·]?) := by
  have hnone : t.part? .parameters = none ↔ t.partIndex? .parameters = none := by
    rw [part?, partIndex?, List.find?_eq_none, List.findIdx?_eq_none_iff]
    simp
  rw [parameters?, parametersIndex?]
  cases hp : t.part? .parameters with
  | none => rw [hnone.1 hp, Option.none_or, Option.none_or, part?_eq]
  | some c =>
    cases hi : t.partIndex? .parameters with
    | none => rw [hnone.2 hi] at hp; cases hp
    | some i => rw [Option.some_or, Option.some_or, ← hp, part?_eq, hi]

/-- The child with a number is the body or the parameters of a function. -/
def isLocalPart (t : Tree) (i : Nat) : Prop := t.partIndex? .body = some i ∨ t.parametersIndex? = some i

/-- The parameters and the body of a function. -/
def localParts (t : Tree) : List Tree := t.parameters?.toList ++ (t.part? .body).toList

theorem mem_localParts {t c : Tree} :
    c ∈ t.localParts ↔ ∃ i, t.isLocalPart i ∧ t.children[i]? = some c := by
  simp only [localParts, List.mem_append, Option.mem_toList, parameters?_eq, part?_eq, isLocalPart,
    Option.bind_eq_some_iff, or_and_right, exists_or]
  rw [or_comm]

theorem locals?_eq_some {t : Tree} {survey : Survey} {bound : List (List Char)} (h : t.locals? = some (survey, bound)) :
    surveyIn? t.localParts = some survey := by
  rw [locals?, Option.bind_eq_bind, Option.bind_eq_some_iff] at h
  obtain ⟨body, hbody, h⟩ := h
  rw [Option.bind_eq_bind, Option.bind_eq_some_iff] at h
  obtain ⟨s, hs, h⟩ := h
  rw [Option.bind_eq_bind, Option.bind_eq_some_iff] at h
  obtain ⟨names, -, h⟩ := h
  cases h
  rw [localParts, hbody]
  exact hs

/-! ## The places in a plan -/

/-- A function's plan names places of identifiers in its parameters and its body. -/
theorem functionPlan_identifier {t : Tree} {s : Nat} (h : s ∈ t.functionPlan.map (·.1)) :
    ∃ x ∈ nameLeavesIn t.localParts, x.1.kind = .identifier ∧ x.1.start.byte = s := by
  rw [functionPlan] at h
  split at h
  · cases h
  next survey bound hl =>
    obtain ⟨⟨start, new⟩, he, rfl⟩ := List.mem_map.1 h
    obtain ⟨⟨start', name⟩, hm, heq⟩ := List.mem_filterMap.1 he
    obtain ⟨_, _, heq⟩ := Option.map_eq_some_iff.1 heq
    cases heq
    obtain ⟨info, hx, hk, hs⟩ := ((surveys_of_surveyIn? (locals?_eq_some hl)).identifiers _ _).1 hm
    exact ⟨_, hx, hk, hs⟩

theorem mem_nameLeavesIn_localParts {info : Info} {children : List Tree} {x : Info × List Char}
    (h : x ∈ nameLeavesIn (node info children).localParts) : x ∈ nameLeavesIn children := by
  obtain ⟨c, hc, hx⟩ := mem_nameLeavesIn.1 h
  obtain ⟨i, -, hi⟩ := mem_localParts.1 hc
  exact mem_nameLeavesIn.2 ⟨c, List.mem_of_getElem? hi, hx⟩

mutual
/-- A plan names places of identifiers only. -/
theorem plan_identifier : ∀ {t : Tree} {s : Nat}, s ∈ t.plan.map (·.1) →
    ∃ x ∈ t.nameLeaves, x.1.kind = .identifier ∧ x.1.start.byte = s
  | leaf _ _, _, h => by cases h
  | node info children, s, h => by
    rw [plan, List.map_append] at h
    rcases List.mem_append.1 h with h | h
    · split at h
      · obtain ⟨x, hx, hs⟩ := functionPlan_identifier h
        exact ⟨x, mem_nameLeavesIn_localParts hx, hs⟩
      · cases h
    · exact planIn_identifier h

theorem planIn_identifier : ∀ {ts : List Tree} {s : Nat}, s ∈ (planIn ts).map (·.1) →
    ∃ x ∈ nameLeavesIn ts, x.1.kind = .identifier ∧ x.1.start.byte = s
  | [], _, h => by cases h
  | t :: ts, s, h => by
    rw [planIn, List.map_append] at h
    rw [nameLeavesIn]
    rcases List.mem_append.1 h with h | h
    · obtain ⟨x, hx, hs⟩ := plan_identifier h
      exact ⟨x, List.mem_append_left _ hx, hs⟩
    · obtain ⟨x, hx, hs⟩ := planIn_identifier h
      exact ⟨x, List.mem_append_right _ hx, hs⟩
end

theorem plan_keys {t : Tree} {s : Nat} (h : s ∈ t.plan.map (·.1)) : s ∈ t.nameStarts := by
  obtain ⟨x, hx, -, rfl⟩ := plan_identifier h
  exact List.mem_map_of_mem hx

theorem planIn_keys {ts : List Tree} {s : Nat} (h : s ∈ (planIn ts).map (·.1)) :
    s ∈ (nameLeavesIn ts).map (·.1.start.byte) := by
  obtain ⟨x, hx, -, rfl⟩ := planIn_identifier h
  exact List.mem_map_of_mem hx

/-! ## What a plan has for a place -/

section Places

variable {children : List Tree} (hn : ((nameLeavesIn children).map (·.1.start.byte)).Nodup)
include hn

theorem nodup_nameStarts {c : Tree} (hc : c ∈ children) : c.nameStarts.Nodup := by
  rw [nameLeavesIn_eq_flatMap, List.map_flatMap] at hn
  exact (List.pairwise_flatMap.1 hn).1 c hc

/-- Names in different children start at different bytes. -/
theorem starts_ne {i j : Nat} {c d : Tree} (hi : children[i]? = some c) (hj : children[j]? = some d) (hne : i ≠ j)
    {s : Nat} (hc : s ∈ c.nameStarts) : s ∉ d.nameStarts := by
  rw [nameLeavesIn_eq_flatMap, List.map_flatMap] at hn
  have hpair := List.pairwise_iff_getElem.1 (List.pairwise_flatMap.1 hn).2
  obtain ⟨hi', rfl⟩ := List.getElem?_eq_some_iff.1 hi
  obtain ⟨hj', rfl⟩ := List.getElem?_eq_some_iff.1 hj
  intro hd
  rcases Nat.lt_or_gt_of_ne hne with hlt | hlt
  · exact hpair i j hi' hj' hlt s hc s hd rfl
  · exact hpair j i hj' hi' hlt s hd s hc rfl

theorem lookup_planIn {c : Tree} (hc : c ∈ children) {s : Nat} (hs : s ∈ c.nameStarts) :
    (planIn children).lookup s = c.plan.lookup s := by
  induction children with
  | nil => cases hc
  | cons t ts ih =>
    rw [nameLeavesIn, List.map_append, List.nodup_append] at hn
    have hdisjoint := hn.2.2
    rw [planIn, List.lookup_append]
    rcases List.mem_cons.1 hc with rfl | hc
    · have hnone : (planIn ts).lookup s = none :=
        lookup_eq_none_of_not_mem fun h => hdisjoint s hs s (planIn_keys h) rfl
      rw [hnone, Option.or_none]
    · have hmem : s ∈ (nameLeavesIn ts).map (·.1.start.byte) := by
        obtain ⟨x, hx, rfl⟩ := List.mem_map.1 hs
        exact List.mem_map.2 ⟨x, mem_nameLeavesIn.2 ⟨c, hc, hx⟩, rfl⟩
      have hnone : t.plan.lookup s = none :=
        lookup_eq_none_of_not_mem fun h => hdisjoint s (plan_keys h) s hmem rfl
      rw [hnone, Option.none_or, ih hn.2.1 hc]

end Places

theorem lookup_filterMap {β γ : Type} {l : List (Nat × β)} (g : β → Option γ) {s : Nat} {b : β} (hm : (s, b) ∈ l)
    (hu : ∀ c, (s, c) ∈ l → c = b) : (l.filterMap fun (start, c) => (g c).map (start, ·)).lookup s = g b := by
  have hmem {w : γ} (h : (s, w) ∈ l.filterMap fun (start, c) => (g c).map (start, ·)) : g b = some w := by
    obtain ⟨⟨start, c⟩, hc, heq⟩ := List.mem_filterMap.1 h
    obtain ⟨v, hv, heq⟩ := Option.map_eq_some_iff.1 heq
    cases heq
    rw [← hu c hc, hv]
  cases hl : (l.filterMap fun (start, c) => (g c).map (start, ·)).lookup s with
  | some w => exact (hmem (mem_of_lookup_eq_some hl)).symm
  | none =>
    cases hg : g b with
    | none => rfl
    | some v =>
      have hin : (s, v) ∈ l.filterMap fun (start, c) => (g c).map (start, ·) :=
        List.mem_filterMap.2 ⟨(s, b), hm, by simp [hg]⟩
      have := List.lookup_eq_none_iff.1 hl (s, v) hin
      simp at this

/-- A plan has for the names in a tree what the tree's own plan has, and no two of them start at one byte. -/
structure Keeps (plan : Plan) (t : Tree) : Prop where
  nodup : t.nameStarts.Nodup
  lookup : ∀ s ∈ t.nameStarts, plan.lookup s = t.plan.lookup s

section Keeps

variable {plan : Plan} {info : Info} {children : List Tree} (h : Keeps plan (node info children)) {i : Nat} {c : Tree}
  (hi : children[i]? = some c)
include h hi

theorem Keeps.lookup_child {s : Nat} (hs : s ∈ c.nameStarts) :
    plan.lookup s
      = ((if info.kind.isFunction then (node info children).functionPlan else []) ++ planIn children).lookup s := by
  obtain ⟨x, hx, rfl⟩ := List.mem_map.1 hs
  exact h.lookup _ (List.mem_map_of_mem (mem_nameLeavesIn.2 ⟨c, List.mem_of_getElem? hi, hx⟩))

/-- So it does for the children of a node, apart from the local parts of a function that is simple enough. -/
theorem Keeps.child (hl : info.kind.isFunction → (node info children).locals?.isSome →
    ¬ (node info children).isLocalPart i) : Keeps plan c where
  nodup := nodup_nameStarts h.nodup (List.mem_of_getElem? hi)
  lookup s hs := by
    rw [h.lookup_child hi hs, List.lookup_append, lookup_planIn h.nodup (List.mem_of_getElem? hi) hs]
    have hnone : List.lookup s (if info.kind.isFunction then (node info children).functionPlan else []) = none := by
      refine lookup_eq_none_of_not_mem fun hm => ?_
      split at hm
      next hf =>
        have hsome : (node info children).locals?.isSome := by
          rw [functionPlan] at hm
          split at hm
          · cases hm
          next heq => rw [heq]; rfl
        obtain ⟨x, hx, -, rfl⟩ := functionPlan_identifier hm
        obtain ⟨d, hd, hx⟩ := mem_nameLeavesIn.1 hx
        obtain ⟨j, hj, hd⟩ := mem_localParts.1 hd
        have hne : i ≠ j := fun heq => hl hf hsome (heq ▸ hj)
        exact starts_ne h.nodup hi hd hne hs (List.mem_map_of_mem hx)
      next => cases hm
    rw [hnone, Option.none_or]

/-- In the local parts of a function that is simple enough, a plan has for each identifier the new name that the
function gives to what it spells. -/
theorem Keeps.localPart (hf : info.kind.isFunction) {survey : Survey} {bound : List (List Char)}
    (hl : (node info children).locals? = some (survey, bound)) (hp : (node info children).isLocalPart i)
    {x : Info × List Char} (hx : x ∈ c.nameLeaves) (hk : x.1.kind = .identifier) :
    plan.lookup x.1.start.byte = (mapping survey bound).lookup x.2 := by
  have hs : x.1.start.byte ∈ c.nameStarts := List.mem_map_of_mem hx
  have hmem : c ∈ (node info children).localParts := mem_localParts.2 ⟨i, hp, hi⟩
  have hsurvey := locals?_eq_some hl
  have hsurveys := surveys_of_surveyIn? hsurvey
  have hplan : c.plan = [] := plan_of_survey? (survey?_of_mem (Option.isSome_of_eq_some hsurvey) c hmem)
  rw [h.lookup_child hi hs, List.lookup_append, lookup_planIn h.nodup (List.mem_of_getElem? hi) hs, hplan,
    List.lookup_nil, Option.or_none, if_pos hf, functionPlan, hl]
  have hidentifier := (hsurveys.identifiers _ _).2 ⟨x.1, mem_nameLeavesIn.2 ⟨c, hmem, hx⟩, hk, rfl⟩
  refine lookup_filterMap (fun name => (mapping survey bound).lookup name) hidentifier fun name hname => ?_
  obtain ⟨info', hy, -, hstart⟩ := (hsurveys.identifiers _ _).1 hname
  have hx' := mem_nameLeavesIn.2 ⟨c, List.mem_of_getElem? hi, hx⟩
  have heq := List.inj_on_of_nodup_map h.nodup (mem_nameLeavesIn_localParts hy) hx' hstart
  rw [← heq]

end Keeps

end Tree
end Bookmarklet.Script
