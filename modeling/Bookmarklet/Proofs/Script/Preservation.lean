import Bookmarklet.Proofs.Script.Plan
import Bookmarklet.Proofs.Script.Renaming

/-!
# Shorter names keep their meaning

A plan preserves binding if two places of a script refer to one declaration after it if and only if they did before,
and what refers to anything outside of its function keeps its name (`Tree.PreservesBinding`).

* Inside a function that is simple enough, a plan exchanges the names of locals with names that occur nowhere in it
  (`Tree.unescape_respell`), so every place refers to what it did (`Tree.meaning_rename_local`); everywhere else, no
  name changes (`Tree.Keeps.spells`).
* So a plan preserves binding if and only if no name that it changes refers to anything outside of its function
  (`Tree.preservesBinding_iff`). This leaves out functions that write a local with an escape in one place and without
  in another (`Tree.EscapesApart`).
-/

namespace Bookmarklet.Script

/-! ## Exchanging names -/

namespace Plan

/-- Exchanges names with the new names that they are paired with. -/
def exchange (pairs : List (List Char × List Char)) (name : List Char) : List Char :=
  ((pairs.lookup name).or ((pairs.map Prod.swap).lookup name)).getD name

section Exchange

variable {pairs : List (List Char × List Char)} (hk : (pairs.map (·.1)).Nodup) (hv : (pairs.map (·.2)).Nodup)
  (hd : ∀ name ∈ pairs.map (·.1), name ∉ pairs.map (·.2))
include hk hv hd

/-- To exchange names twice is to leave them as they are. -/
theorem exchange_exchange (name : List Char) : exchange pairs (exchange pairs name) = name := by
  have hswap : ((pairs.map Prod.swap).map (·.1)) = pairs.map (·.2) := by
    rw [List.map_map]
    rfl
  cases hnew : pairs.lookup name with
  | some new =>
    have hmem := mem_of_lookup_eq_some hnew
    have hnone : pairs.lookup new = none :=
      lookup_eq_none_of_not_mem fun h => hd new h (List.mem_map.2 ⟨_, hmem, rfl⟩)
    have hback : (pairs.map Prod.swap).lookup new = some name :=
      lookup_eq_some_of_mem (by rwa [hswap]) (List.mem_map.2 ⟨_, hmem, rfl⟩)
    simp [exchange, hnew, hnone, hback]
  | none =>
    cases hold : (pairs.map Prod.swap).lookup name with
    | some old =>
      obtain ⟨⟨a, b⟩, hmem, heq⟩ := List.mem_map.1 (mem_of_lookup_eq_some hold)
      cases heq
      simp [exchange, hnew, hold, lookup_eq_some_of_mem hk hmem]
    | none => simp [exchange, hnew, hold]

theorem exchange_injective {a b : List Char} (h : exchange pairs a = exchange pairs b) : a = b := by
  rw [← exchange_exchange hk hv hd a, h, exchange_exchange hk hv hd b]

end Exchange

/-- What becomes of the names that a function spells. -/
def respelling (survey : Survey) (bound : List (List Char)) : List Char → List Char :=
  exchange ((mapping survey bound).filter fun e => survey.names.contains e.1)

section Respelling

variable {survey : Survey} {bound : List (List Char)}

theorem respelling_injective {a b : List Char} (h : respelling survey bound a = respelling survey bound b) :
    a = b := by
  refine exchange_injective ?_ ?_ ?_ h
  · exact (mapping_keys_nodup survey bound).sublist (List.filter_sublist.map _)
  · exact (mapping_values_nodup survey bound).sublist (List.filter_sublist.map _)
  · intro name hname hnew
    obtain ⟨e, he, rfl⟩ := List.mem_map.1 hname
    have hnew := (List.filter_sublist.map _).subset hnew
    exact (not_mem_of_mapping_value survey bound hnew).1 (by simpa using (List.mem_filter.1 he).2)

/-- A name that is spelled and changes becomes its new name. -/
theorem respelling_of_lookup {name new : List Char} (hs : name ∈ survey.names)
    (h : (mapping survey bound).lookup name = some new) : respelling survey bound name = new := by
  have hp : survey.names.contains name := by simpa using hs
  rw [respelling, exchange, lookup_filter_key (p := fun name => survey.names.contains name) hp, h]
  rfl

/-- Other names stay, unless they are new names. -/
theorem respelling_of_not_mem {name : List Char} (h : (mapping survey bound).lookup name = none)
    (hn : name ∉ (mapping survey bound).map (·.2)) : respelling survey bound name = name := by
  have hold : List.lookup name ((mapping survey bound).filter fun e => survey.names.contains e.1) = none := by
    refine List.lookup_eq_none_iff.2 fun e he => List.lookup_eq_none_iff.1 h e (List.mem_filter.1 he).1
  have hnew : List.lookup name (((mapping survey bound).filter fun e => survey.names.contains e.1).map Prod.swap)
      = none := by
    refine lookup_eq_none_of_not_mem fun hm => hn ?_
    rw [List.map_map] at hm
    exact (List.filter_sublist.map _).subset hm
  rw [respelling, exchange, hold, hnew]
  rfl

theorem respelling_of_reserved {name : List Char} (h : name ∈ reserved) : respelling survey bound name = name := by
  refine respelling_of_not_mem (lookup_eq_none_of_not_mem fun hm => ?_) fun hm => ?_
  · exact (mapping_keys survey bound hm).2 h
  · exact (not_mem_of_mapping_value survey bound hm).2 h

/-- New names read as they stand. -/
theorem unescape_new {new : List Char} (h : new ∈ (mapping survey bound).map (·.2)) : unescape new = new := by
  obtain ⟨e, he, rfl⟩ := List.mem_map.1 h
  obtain ⟨k, -, hspell, -⟩ := assign_values _ _ e he
  rw [hspell]
  exact unescape_of_plain (FreshName.backslash_not_mem_spell k)

end Respelling
end Plan

namespace Tree

open Plan

/-! ## Functions that spell names plainly -/

/-- No name that a function writes with an escape has to do with a name that changes, or with a new name: neither is
it one of them as it is written, nor as it reads. -/
def EscapesApart (function : Tree) : Prop :=
  ∀ survey bound, function.locals? = some (survey, bound) → ∀ x ∈ nameLeavesIn function.localParts, '\\' ∈ x.2 →
    (mapping survey bound).lookup x.2 = none ∧ (mapping survey bound).lookup (unescape x.2) = none
      ∧ unescape x.2 ∉ (mapping survey bound).map (·.2)

section Local

variable {plan : Plan} {info : Info} {children : List Tree} (h : Keeps plan (node info children)) {i : Nat} {c : Tree}
  (hi : children[i]? = some c) (hf : info.kind.isFunction) {survey : Survey} {bound : List (List Char)}
  (hl : (node info children).locals? = some (survey, bound)) (hp : (node info children).isLocalPart i)

include h hi hf hl hp in
/-- In the local parts of a function, every name is spelled as its respelling. -/
theorem respell_eq_respelling {x : Info × List Char} (hx : x ∈ c.nameLeaves) :
    plan.respell x.1 x.2 = respelling survey bound x.2 := by
  have hmem := mem_nameLeavesIn.2 ⟨c, mem_localParts.2 ⟨i, hp, hi⟩, hx⟩
  have hsurveys := surveys_of_surveyIn? (locals?_eq_some hl)
  have hname : x.2 ∈ survey.names := hsurveys.names hmem
  have hfresh : x.2 ∉ (mapping survey bound).map (·.2) := fun hm => (not_mem_of_mapping_value survey bound hm).1 hname
  have hrespell : plan.respell x.1 x.2 = ((mapping survey bound).lookup x.2).getD x.2 := by
    rw [Plan.respell]
    split
    next hk => rw [h.localPart hi hf hl hp hx hk]
    next hk =>
      have hshort := hsurveys.shorthands x.1 x.2 hmem hk
      rw [lookup_eq_none_of_not_mem fun hm => (mapping_keys survey bound hm).1 hshort]
      rfl
  rw [hrespell]
  cases hlook : (mapping survey bound).lookup x.2 with
  | none => rw [respelling_of_not_mem hlook hfresh]; rfl
  | some new => rw [respelling_of_lookup hname hlook]; rfl

variable (he : (node info children).EscapesApart) {x : Info × List Char} (hx : x ∈ c.nameLeaves)
include h hi hf hl hp he hx

/-- In the local parts of a function, every name reads as its respelling. -/
theorem unescape_respell :
    unescape (plan.respell x.1 x.2) = respelling survey bound (unescape x.2) := by
  have hmem := mem_nameLeavesIn.2 ⟨c, mem_localParts.2 ⟨i, hp, hi⟩, hx⟩
  have hname : x.2 ∈ survey.names := (surveys_of_surveyIn? (locals?_eq_some hl)).names hmem
  have hfresh : x.2 ∉ (mapping survey bound).map (·.2) := fun hm => (not_mem_of_mapping_value survey bound hm).1 hname
  rw [respell_eq_respelling h hi hf hl hp hx]
  by_cases hescape : '\\' ∈ x.2
  · obtain ⟨hraw, hread, hnew⟩ := he survey bound hl x hmem hescape
    rw [respelling_of_not_mem hraw hfresh, respelling_of_not_mem hread hnew]
  · rw [unescape_of_plain hescape]
    cases hlook : (mapping survey bound).lookup x.2 with
    | none => rw [respelling_of_not_mem hlook hfresh]; exact unescape_of_plain hescape
    | some new =>
      rw [respelling_of_lookup hname hlook]
      exact unescape_new (List.mem_map.2 ⟨_, mem_of_lookup_eq_some hlook, rfl⟩)

/-- In the local parts of a function, every identifier that the plan changes reads otherwise than before. -/
theorem unescape_ne_of_lookup (hk : x.1.kind = .identifier) {new : List Char}
    (hnew : plan.lookup x.1.start.byte = some new) : unescape new ≠ unescape x.2 := by
  have hmem := mem_nameLeavesIn.2 ⟨c, mem_localParts.2 ⟨i, hp, hi⟩, hx⟩
  have hname : x.2 ∈ survey.names := (surveys_of_surveyIn? (locals?_eq_some hl)).names hmem
  rw [h.localPart hi hf hl hp hx hk] at hnew
  have hvalue : new ∈ (mapping survey bound).map (·.2) := List.mem_map.2 ⟨_, mem_of_lookup_eq_some hnew, rfl⟩
  have hplain : '\\' ∉ x.2 := fun hescape => by
    rw [(he survey bound hl x hmem hescape).1] at hnew
    cases hnew
  rw [unescape_new hvalue, unescape_of_plain hplain]
  rintro rfl
  exact (not_mem_of_mapping_value survey bound hvalue).1 hname

end Local

section Spells

variable {read : List Char → List Char} {plan : Plan} {σ : List Char → List Char}

mutual
theorem spells_of_leaves : ∀ {t : Tree}, (∀ x ∈ t.nameLeaves, read (plan.respell x.1 x.2) = σ (read x.2)) →
    t.Spells read plan σ
  | leaf info text, h => fun hk => h (info, text) (by rw [nameLeaves, if_pos hk]; exact List.mem_singleton_self _)
  | node info children, h => by
    have hc : SpellsIn read plan σ children := spellsIn_of_leaves h
    rw [Spells]
    split
    · exact hc.at .name
    · exact hc

theorem spellsIn_of_leaves : ∀ {ts : List Tree},
    (∀ x ∈ nameLeavesIn ts, read (plan.respell x.1 x.2) = σ (read x.2)) → SpellsIn read plan σ ts
  | [], _ => trivial
  | _ :: _, h =>
    ⟨spells_of_leaves fun x hx => h x (List.mem_append_left _ hx),
      spellsIn_of_leaves fun x hx => h x (List.mem_append_right _ hx)⟩
end

/-- The body and the parameters of a function are known by the parts that they play. -/
theorem field_of_isLocalPart {t c : Tree} {i : Nat} (hp : t.isLocalPart i) (hi : t.children[i]? = some c) :
    c.info.field ≠ some .name := by
  have hfield {field : Field} (h : t.partIndex? field = some i) : c.info.field = some field := by
    obtain ⟨hlt, hp, -⟩ := List.findIdx?_eq_some_iff_getElem.1 h
    obtain ⟨_, rfl⟩ := List.getElem?_eq_some_iff.1 hi
    simpa using hp
  rcases hp with hp | hp
  · rw [hfield hp]
    decide
  · rw [parametersIndex?, Option.or_eq_some_iff] at hp
    rcases hp with hp | ⟨-, hp⟩ <;> rw [hfield hp] <;> decide

mutual
/-- Outside the local parts of functions, every name stays. -/
theorem Keeps.spells : ∀ {t : Tree}, Keeps plan t → t.Spells read plan id
  | leaf info text, h => by
    rw [Spells]
    intro hk
    have hmem : info.start.byte ∈ (leaf info text).nameStarts := by
      rw [nameStarts, nameLeaves, if_pos hk]
      exact List.mem_singleton_self _
    have hnone : plan.lookup info.start.byte = none := h.lookup _ hmem
    rw [Plan.respell, hnone]
    split <;> rfl
  | node info children, h => by
    rw [Spells]
    split
    next hf =>
      refine Keeps.spellsAt fun c hc hname => ?_
      obtain ⟨i, hi⟩ := List.mem_iff_getElem?.1 hc
      exact h.child hi fun _ _ hp => field_of_isLocalPart hp hi hname
    next hf =>
      refine Keeps.spellsIn fun c hc => ?_
      obtain ⟨i, hi⟩ := List.mem_iff_getElem?.1 hc
      exact h.child hi fun hf' => absurd hf' hf

theorem Keeps.spellsAt : ∀ {ts : List Tree}, (∀ c ∈ ts, c.info.field = some .name → Keeps plan c) →
    SpellsAt read plan id .name ts
  | [], _ => trivial
  | t :: ts, h => by
    rw [SpellsAt]
    split
    next hname => exact (h t List.mem_cons_self hname).spells
    next => exact Keeps.spellsAt fun c hc => h c (List.mem_cons_of_mem t hc)

theorem Keeps.spellsIn : ∀ {ts : List Tree}, (∀ c ∈ ts, Keeps plan c) → SpellsIn read plan id ts
  | [], _ => trivial
  | t :: _, h => ⟨(h t List.mem_cons_self).spells, Keeps.spellsIn fun c hc => h c (List.mem_cons_of_mem t hc)⟩
end

end Spells

/-! ## Look-up under other names -/

section LookUp

variable {σ : List Char → List Char} (hσ : ∀ a b, σ a = σ b → a = b)
include hσ

theorem idxOf?_map (name : List Char) (names : List (List Char)) :
    (names.map σ).idxOf? (σ name) = names.idxOf? name := by
  induction names with
  | nil => rfl
  | cons a names ih =>
    rw [List.map_cons, List.idxOf?_cons, List.idxOf?_cons, ih]
    by_cases h : a = name
    · simp [h]
    · have hne : σ a ≠ σ name := fun heq => h (hσ _ _ heq)
      simp [h, hne]

/-- Names that stay different refer to the same declarations. -/
theorem lookUp_map (name : List Char) (frames : List Frame) :
    lookUp (σ name) (frames.map (Frame.map σ)) = lookUp name frames := by
  induction frames with
  | nil => rfl
  | cons f frames ih =>
    rw [List.map_cons, lookUp, lookUp, ih]
    simp only [Frame.map, idxOf?_map hσ]

end LookUp

end Tree

/-! ## What an occurrence means -/

/-- What renaming must not change of an occurrence. -/
def Occurrence.meaning (o : Occurrence) : Nat × Declaration × Bool × Option (List Char) :=
  (o.start, o.declaration, o.isFree, if o.isFree then some o.name else none)

namespace Tree

open Plan

section Occurrences

variable {plan : Plan}

/-- The places in some trees keep their meaning if those in each tree do. -/
theorem meaning_occurrencesIn (isBody : Nat → Bool) (env env' : Nat → Env) (path : List Nat) :
    ∀ (ts : List Tree) (i : Nat),
      (∀ (j : Nat) (c : Tree), ts[j]? = some c →
        ((c.rename plan).occurrencesFrom (isBody (i + j)) (env' (i + j)) ((i + j) :: path)).map Occurrence.meaning
          = (c.occurrencesFrom (isBody (i + j)) (env (i + j)) ((i + j) :: path)).map Occurrence.meaning) →
      (occurrencesIn isBody env' path i (renameIn plan ts)).map Occurrence.meaning
        = (occurrencesIn isBody env path i ts).map Occurrence.meaning
  | [], _, _ => rfl
  | t :: ts, i, h => by
    have hrest := meaning_occurrencesIn isBody env env' path ts (i + 1) fun j c hj => by
      have := h (j + 1) c hj
      rwa [show i + (j + 1) = i + 1 + j by omega] at this
    have hfirst := h 0 t rfl
    rw [Nat.add_zero] at hfirst
    rw [renameIn, occurrencesIn, occurrencesIn, List.map_append, List.map_append, hfirst, hrest]

theorem mem_occurrencesIn {isBody : Nat → Bool} {env : Nat → Env} {path : List Nat} {o : Occurrence} :
    ∀ {ts : List Tree} {i j : Nat} {c : Tree}, ts[j]? = some c →
      o ∈ c.occurrencesFrom (isBody (i + j)) (env (i + j)) ((i + j) :: path) → o ∈ occurrencesIn isBody env path i ts
  | t :: ts, i, 0, c, hj, h => by
    cases hj
    exact List.mem_append_left _ h
  | t :: ts, i, j + 1, c, hj, h => by
    rw [show i + (j + 1) = i + 1 + j by omega] at h
    exact List.mem_append_right _ (mem_occurrencesIn (i := i + 1) hj h)

/-- A place in some trees is one in one of them. -/
theorem exists_of_mem_occurrencesIn {isBody : Nat → Bool} {env : Nat → Env} {path : List Nat} {o : Occurrence}
    {ts : List Tree} {i : Nat} (h : o ∈ occurrencesIn isBody env path i ts) :
    ∃ (j : Nat) (c : Tree), ts[j]? = some c
      ∧ o ∈ c.occurrencesFrom (isBody (i + j)) (env (i + j)) ((i + j) :: path) := by
  induction ts generalizing i with
  | nil => cases h
  | cons t ts ih =>
    rcases List.mem_append.1 h with h | h
    · exact ⟨0, t, rfl, h⟩
    · obtain ⟨j, c, hj, h⟩ := ih h
      rw [show i + 1 + j = i + (j + 1) by omega] at h
      exact ⟨j + 1, c, hj, h⟩

/-- A node other than a function and a class makes one environment for all its children. -/
theorem envBelow_of_plain {t : Tree} (hf : t.kind.isFunction = false) (hc : t.kind.isClass = false) (isBody : Bool)
    (env : Env) (path : List Nat) (i : Nat) :
    t.envBelow isBody env path i = env.enter ((t.scopeNames? isBody).map (frame path .inner)).toList := by
  have hk : t.kind ≠ .classDeclaration := fun h => by
    rw [h] at hc
    cases hc
  simp [envBelow, hf, hk]

/-! ### Inside functions that are simple enough -/

variable {σ : List Char → List Char} (hσ : ∀ a b, σ a = σ b → a = b)
include hσ

/-- A name that its function declares, and a name that stays, refer to what they did. -/
theorem meaning_resolve (own outer : List Frame) (start : Nat) (name : List Char)
    (h : lookUp name own = none → σ name = name) :
    (Env.resolve ⟨own.map (Frame.map σ), outer⟩ start (σ name)).meaning
      = (Env.resolve ⟨own, outer⟩ start name).meaning := by
  rw [Env.resolve, Env.resolve, Occurrence.meaning, Occurrence.meaning]
  simp only [lookUp_map hσ]
  cases hl : lookUp name own with
  | some d => rfl
  | none => simp [h hl]

/-- Where every name is respelled in one way, its places keep their meaning, if no name changes that refers to anything
outside the function. -/
theorem meaning_rename_local : ∀ (t : Tree), t.survey?.isSome →
    (∀ x ∈ t.nameLeaves, unescape (plan.respell x.1 x.2) = σ (unescape x.2)) →
    ∀ (isBody : Bool) (own outer : List Frame) (path : List Nat),
      (∀ o ∈ t.occurrencesFrom isBody ⟨own, outer⟩ path, o.isFree → plan.lookup o.start = none) →
      ((t.rename plan).occurrencesFrom isBody ⟨own.map (Frame.map σ), outer⟩ path).map Occurrence.meaning
        = (t.occurrencesFrom isBody ⟨own, outer⟩ path).map Occurrence.meaning
  | leaf info text, _, hx, isBody, own, outer, path, hfree => by
    rw [rename, occurrencesFrom, occurrencesFrom] at *
    split
    next hk =>
      rw [if_pos hk] at hfree
      have hspell := hx (info, text) (by rw [nameLeaves, if_pos hk]; exact List.mem_singleton_self _)
      rw [List.map_singleton, List.map_singleton, hspell, meaning_resolve hσ]
      intro hl
      have hnone : plan.lookup info.start.byte = none :=
        hfree _ (List.mem_singleton_self _) (by simp [Env.resolve, hl])
      rw [← hspell, Plan.respell, hnone]
      split <;> rfl
    next => rfl
  | node info children, hs, hx, isBody, own, outer, path, hfree => by
    rw [survey?] at hs
    split at hs
    · cases hs
    next ho =>
      have hf : info.kind.isFunction = false := by
        simp only [isObstacle, Bool.or_eq_true, not_or, Bool.not_eq_true] at ho
        exact ho.1.1.1
      have hc : info.kind.isClass = false := by
        simp only [isObstacle, Bool.or_eq_true, not_or, Bool.not_eq_true] at ho
        exact ho.1.1.2
      have hspells : (node info children).Spells unescape plan σ := spells_of_leaves hx
      have hframe := scopeFrame_rename hspells hf isBody path
      have hkind : (node info children).isBodyAt = (node info (renameIn plan children)).isBodyAt :=
        (isBodyAt_rename plan (node info children)).symm
      rw [occurrencesFrom] at hfree
      rw [rename] at hframe ⊢
      rw [occurrencesFrom, occurrencesFrom, ← hkind]
      refine meaning_occurrencesIn _ _ _ path children 0 fun j c hj => ?_
      have hmem := List.mem_of_getElem? hj
      simp only [envBelow_of_plain (t := node info children) hf hc,
        envBelow_of_plain (t := node info (renameIn plan children)) hf hc, Env.enter, hframe, ← List.map_append]
      refine meaning_rename_local c (survey?_of_mem hs c hmem)
        (fun x h => hx x (mem_nameLeavesIn.2 ⟨c, hmem, h⟩)) _ _ _ _ fun o ho hfr => ?_
      refine hfree o (mem_occurrencesIn hj ?_) hfr
      rwa [envBelow_of_plain (t := node info children) hf hc]
termination_by t => sizeOf t
decreasing_by
  have := List.sizeOf_lt_of_mem hmem
  simp
  omega

end Occurrences

/-! ### Everywhere else -/

mutual
/-- The functions in a tree. -/
def functions : Tree → List Tree
  | leaf _ _ => []
  | node info children => (if info.kind.isFunction then [node info children] else []) ++ functionsIn children

/-- The functions in some trees. -/
def functionsIn : List Tree → List Tree
  | [] => []
  | t :: ts => t.functions ++ functionsIn ts
end

theorem mem_functionsIn {f c : Tree} (h : f ∈ c.functions) : ∀ {ts : List Tree}, c ∈ ts → f ∈ functionsIn ts
  | _ :: _, .head _ => List.mem_append_left _ h
  | _ :: _, .tail _ hm => List.mem_append_right _ (mem_functionsIn h hm)

theorem map_id_frame : Frame.map id = id := by
  funext f
  simp [Frame.map]

/-- The parameters and the body of a function spell their names in some way if its local parts do. -/
theorem spells_parts {plan : Plan} {t : Tree} {σ : List Char → List Char}
    (hσ : ∀ i c, t.isLocalPart i → t.children[i]? = some c → c.Spells unescape plan σ) :
    (∀ c, t.parameters? = some c → c.Spells unescape plan σ)
      ∧ ∀ c, t.part? .body = some c → c.Spells unescape plan σ := by
  constructor
  · intro c hc
    rw [parameters?_eq] at hc
    obtain ⟨i, hi, hc⟩ := Option.bind_eq_some_iff.1 hc
    exact hσ i c (.inr hi) hc
  · intro c hc
    rw [part?_eq] at hc
    obtain ⟨i, hi, hc⟩ := Option.bind_eq_some_iff.1 hc
    exact hσ i c (.inl hi) hc

section Everywhere

variable {plan : Plan} {info : Info} {children : List Tree} (h : Keeps plan (node info children)) {i : Nat}
include h

/-- The environment of a child stays, unless it is a local part of a function that is simple enough. -/
theorem envBelow_keep (hl : info.kind.isFunction → (node info children).locals?.isSome →
    ¬ (node info children).isLocalPart i) (isBody : Bool) (env : Env) (path : List Nat) :
    ((node info children).rename plan).envBelow isBody env path i
      = (node info children).envBelow isBody env path i := by
  have hkind : (node info children).kind = info.kind := rfl
  simp only [envBelow, kind_rename, partIndex?_rename, parametersIndex?_rename, nameFrames_rename path h.spells,
    map_id_frame, List.map_id]
  by_cases hf : info.kind.isFunction
  · rw [hkind, if_pos hf, if_pos hf]
    by_cases hp : (node info children).isLocalPart i
    · have hnone (hs : (node info children).locals?.isSome) : False := hl hf hs hp
      have hparts := spells_parts (t := node info children) fun j c _ hj =>
        (h.child hj fun _ hs => (hnone hs).elim).spells
      rw [bodyFrames_rename hparts.1 rfl path hparts.2, parameterFrame_rename hparts.1 rfl path, map_id_frame,
        List.map_id]
      rfl
    · simp only [isLocalPart, not_or] at hp
      rw [if_neg hp.1, if_neg hp.1, if_neg hp.2, if_neg hp.2]
  · have hf' : (node info children).kind.isFunction = false := by simpa [hkind] using hf
    rw [hkind, if_neg hf, if_neg hf, scopeFrame_rename h.spells hf' isBody path, map_id_frame, List.map_id]

/-- The environment of a local part of a function that is simple enough has the names changed that the function
declares. -/
theorem envBelow_local (hf : info.kind.isFunction) {σ : List Char → List Char}
    (ha : σ "arguments".toList = "arguments".toList)
    (hσ : ∀ j c, (node info children).isLocalPart j → children[j]? = some c → c.Spells unescape plan σ)
    (hp : (node info children).isLocalPart i) (isBody : Bool) (env : Env) (path : List Nat) :
    ∃ own outer, (node info children).envBelow isBody env path i = ⟨own, outer⟩
      ∧ ((node info children).rename plan).envBelow isBody env path i = ⟨own.map (Frame.map σ), outer⟩ := by
  have hkind : (node info children).kind = info.kind := rfl
  have hparts := spells_parts hσ
  simp only [envBelow, kind_rename, partIndex?_rename, parametersIndex?_rename, nameFrames_rename path h.spells,
    map_id_frame, List.map_id, bodyFrames_rename hparts.1 ha path hparts.2,
    parameterFrame_rename hparts.1 ha path]
  rw [hkind, if_pos hf, if_pos hf]
  by_cases hb : (node info children).partIndex? .body = some i
  · rw [if_pos hb, if_pos hb]
    exact ⟨_, _, rfl, rfl⟩
  · have hparameters := hp.resolve_left hb
    rw [if_neg hb, if_neg hb, if_pos hparameters, if_pos hparameters]
    exact ⟨_, _, rfl, rfl⟩

end Everywhere

/-- Outside the local parts of functions that are simple enough, every place keeps its meaning, and inside of them if
no name changes that refers to anything outside the function. -/
theorem meaning_rename {plan : Plan} : ∀ (t : Tree), Keeps plan t → (∀ f ∈ t.functions, f.EscapesApart) →
    ∀ (isBody : Bool) (env : Env) (path : List Nat),
      (∀ o ∈ t.occurrencesFrom isBody env path, o.isFree → plan.lookup o.start = none) →
      ((t.rename plan).occurrencesFrom isBody env path).map Occurrence.meaning
        = (t.occurrencesFrom isBody env path).map Occurrence.meaning
  | leaf info text, h, _, isBody, env, path, _ => by
    have hspells : (leaf info text).Spells unescape plan id := h.spells
    rw [Spells] at hspells
    rw [rename, occurrencesFrom, occurrencesFrom]
    split
    next hk => rw [hspells hk, id]
    next => rfl
  | node info children, h, he, isBody, env, path, hfree => by
    have hbody : (node info (renameIn plan children)).isBodyAt = (node info children).isBodyAt :=
      isBodyAt_rename plan (node info children)
    rw [occurrencesFrom] at hfree
    rw [rename, occurrencesFrom, occurrencesFrom, hbody]
    refine meaning_occurrencesIn _ _ _ path children 0 fun i c hi => ?_
    have hmem := List.mem_of_getElem? hi
    have hfree' (o) (ho) := hfree o (mem_occurrencesIn hi ho)
    rw [Nat.zero_add] at *
    by_cases hl : info.kind.isFunction → (node info children).locals?.isSome → ¬ (node info children).isLocalPart i
    · have henv := envBelow_keep h hl isBody env path
      rw [rename] at henv
      rw [henv]
      refine meaning_rename c (h.child hi hl) (fun f hf => he f ?_) _ _ _ hfree'
      exact List.mem_append_right _ (mem_functionsIn hf hmem)
    · obtain ⟨hf, hsome, hp⟩ : info.kind.isFunction ∧ (node info children).locals?.isSome
          ∧ (node info children).isLocalPart i := by
        simpa only [Classical.not_imp, Classical.not_not] using hl
      obtain ⟨⟨survey, bound⟩, hlocals⟩ := Option.isSome_iff_exists.1 hsome
      have hapart : (node info children).EscapesApart :=
        he _ (List.mem_append_left _ (by rw [if_pos hf]; exact List.mem_singleton_self _))
      have hrespell {j : Nat} {d : Tree} (hj : (node info children).isLocalPart j) (hd : children[j]? = some d) :=
        fun x => unescape_respell (x := x) h hd hf hlocals hj hapart
      have harguments : respelling survey bound "arguments".toList = "arguments".toList :=
        respelling_of_reserved (by decide)
      obtain ⟨own, outer, henv, henv'⟩ := envBelow_local h hf harguments
        (fun j d hj hd => spells_of_leaves (hrespell hj hd)) hp isBody env path
      have hsurvey := survey?_of_mem (Option.isSome_of_eq_some (locals?_eq_some hlocals)) c
        (mem_localParts.2 ⟨i, hp, hi⟩)
      rw [rename] at henv'
      rw [henv] at hfree'
      rw [henv, henv']
      exact meaning_rename_local (fun _ _ => respelling_injective) c hsurvey (hrespell hp hi) _ _ _ _ hfree'
termination_by t => sizeOf t
decreasing_by
  have := List.sizeOf_lt_of_mem hmem
  simp
  omega

/-! ## Names under a plan -/

section Names

variable {plan : Plan}

mutual
/-- The places where variables are named are the leaves that name them. -/
theorem names_occurrencesFrom : ∀ (t : Tree) (isBody : Bool) (env : Env) (path : List Nat),
    (t.occurrencesFrom isBody env path).map (fun o => (o.start, o.name))
      = t.nameLeaves.map fun x => (x.1.start.byte, unescape x.2)
  | leaf info text, isBody, env, path => by
    rw [occurrencesFrom, nameLeaves]
    split <;> rfl
  | node info children, isBody, env, path => by
    rw [occurrencesFrom, nameLeaves, names_occurrencesIn]

theorem names_occurrencesIn : ∀ (ts : List Tree) (isBody : Nat → Bool) (env : Nat → Env) (path : List Nat) (i : Nat),
    (occurrencesIn isBody env path i ts).map (fun o => (o.start, o.name))
      = (nameLeavesIn ts).map fun x => (x.1.start.byte, unescape x.2)
  | [], _, _, _, _ => rfl
  | t :: ts, isBody, env, path, i => by
    rw [occurrencesIn, nameLeavesIn, List.map_append, List.map_append, names_occurrencesFrom, names_occurrencesIn]
end

mutual
theorem nameLeaves_rename : ∀ t : Tree,
    (t.rename plan).nameLeaves = t.nameLeaves.map fun x => (x.1, plan.respell x.1 x.2)
  | leaf info text => by
    rw [rename, nameLeaves, nameLeaves]
    split <;> rfl
  | node info children => by rw [rename, nameLeaves, nameLeaves, nameLeavesIn_rename children]

theorem nameLeavesIn_rename : ∀ ts : List Tree,
    nameLeavesIn (renameIn plan ts) = (nameLeavesIn ts).map fun x => (x.1, plan.respell x.1 x.2)
  | [] => rfl
  | t :: ts => by
    rw [renameIn, nameLeavesIn, nameLeavesIn, List.map_append, nameLeaves_rename t, nameLeavesIn_rename ts]
end

/-- Every identifier that a plan changes reads otherwise than before. -/
theorem unescape_ne_of_keeps : ∀ (t : Tree), Keeps plan t → (∀ f ∈ t.functions, f.EscapesApart) →
    ∀ x ∈ t.nameLeaves, x.1.kind = .identifier → ∀ new, plan.lookup x.1.start.byte = some new →
      unescape new ≠ unescape x.2
  | leaf info text, h, _, x, hx, _, new, hnew => by
    have hnone : plan.lookup x.1.start.byte = none := h.lookup _ (List.mem_map_of_mem hx)
    rw [hnone] at hnew
    cases hnew
  | node info children, h, he, x, hx, hk, new, hnew => by
    obtain ⟨c, hc, hx⟩ := mem_nameLeavesIn.1 hx
    obtain ⟨i, hi⟩ := List.mem_iff_getElem?.1 hc
    by_cases hl : info.kind.isFunction → (node info children).locals?.isSome → ¬ (node info children).isLocalPart i
    · exact unescape_ne_of_keeps c (h.child hi hl)
        (fun f hf => he f (List.mem_append_right _ (mem_functionsIn hf hc))) x hx hk new hnew
    · obtain ⟨hf, hsome, hp⟩ : info.kind.isFunction ∧ (node info children).locals?.isSome
          ∧ (node info children).isLocalPart i := by
        simpa only [Classical.not_imp, Classical.not_not] using hl
      obtain ⟨⟨survey, bound⟩, hlocals⟩ := Option.isSome_iff_exists.1 hsome
      have hapart : (node info children).EscapesApart :=
        he _ (List.mem_append_left _ (by rw [if_pos hf]; exact List.mem_singleton_self _))
      exact unescape_ne_of_lookup h hi hf hlocals hp hapart hx hk hnew
termination_by t => sizeOf t
decreasing_by
  have := List.sizeOf_lt_of_mem hc
  simp
  omega

end Names

/-! ## Binding -/

/-- The places of a script where variables are named keep their binding: two of them refer to one declaration if and
only if they did before, and what refers to anything outside of its function keeps its name. -/
structure PreservesBinding (before after : List Occurrence) : Prop where
  starts : after.map (·.start) = before.map (·.start)
  declarations : ∀ x ∈ before.zip after, ∀ y ∈ before.zip after,
    (x.1.declaration = y.1.declaration ↔ x.2.declaration = y.2.declaration)
  names : ∀ x ∈ before.zip after, x.1.isFree → x.2.name = x.1.name

theorem mem_zip_iff {α β : Type} {l : List α} {m : List β} {x : α × β} :
    x ∈ l.zip m ↔ ∃ i : Nat, l[i]? = some x.1 ∧ m[i]? = some x.2 := by
  simp only [List.mem_iff_getElem?, List.getElem?_zip_eq_some]

/-- Elements of two lists that agree in some respect agree one by one. -/
theorem eq_of_mem_zip {α β γ : Type} {f : α → γ} {g : β → γ} {l : List α} {m : List β} (h : m.map g = l.map f)
    {x : α × β} (hx : x ∈ l.zip m) : g x.2 = f x.1 := by
  obtain ⟨i, hl, hm⟩ := mem_zip_iff.1 hx
  have hi : (m.map g)[i]? = (l.map f)[i]? := by rw [h]
  rw [List.getElem?_map, List.getElem?_map, hl, hm] at hi
  exact Option.some.inj hi

theorem preservesBinding_of_meaning {before after : List Occurrence}
    (h : after.map Occurrence.meaning = before.map Occurrence.meaning) : PreservesBinding before after where
  starts := by
    have hstart := congrArg (List.map (·.1)) h
    rwa [List.map_map, List.map_map] at hstart
  declarations x hx y hy := by
    have hx := congrArg (·.2.1) (eq_of_mem_zip h hx)
    have hy := congrArg (·.2.1) (eq_of_mem_zip h hy)
    simp only [Occurrence.meaning] at hx hy
    rw [hx, hy]
  names x hx hfree := by
    have h := eq_of_mem_zip h hx
    simp only [Occurrence.meaning, Prod.mk.injEq] at h
    obtain ⟨-, -, hf, hname⟩ := h
    rw [hf, hfree] at hname
    exact Option.some.inj hname

/-- The plan of a tree preserves binding if and only if it changes no name that refers to anything outside of its
function. -/
theorem preservesBinding_iff {t : Tree} (hn : t.nameStarts.Nodup) (he : ∀ f ∈ t.functions, f.EscapesApart) :
    PreservesBinding t.occurrences (t.rename t.plan).occurrences ↔
      ∀ o ∈ t.occurrences, o.isFree → t.plan.lookup o.start = none := by
  have hkeeps : Keeps t.plan t := ⟨hn, fun _ _ => rfl⟩
  constructor
  · intro h o ho hfree
    have hbefore := names_occurrencesFrom t false ⟨[], []⟩ []
    have hafter := names_occurrencesFrom (t.rename t.plan) false ⟨[], []⟩ []
    rw [nameLeaves_rename, List.map_map] at hafter
    obtain ⟨i, hi⟩ := List.mem_iff_getElem?.1 ho
    have hleaf := congrArg (·[i]?) hbefore
    have hleaf' := congrArg (·[i]?) hafter
    have hi' : (t.occurrencesFrom false ⟨[], []⟩ [])[i]? = some o := hi
    simp only [List.getElem?_map, hi', Option.map_some] at hleaf
    obtain ⟨x, hx, heq⟩ := Option.map_eq_some_iff.1 hleaf.symm
    obtain ⟨hstart, hname⟩ := Prod.mk.inj heq
    simp only [List.getElem?_map, hx, Option.map_some] at hleaf'
    obtain ⟨o', ho', heq'⟩ := Option.map_eq_some_iff.1 hleaf'
    have hname' : o'.name = unescape (t.plan.respell x.1 x.2) := (Prod.mk.inj heq').2
    have hmem := List.mem_of_getElem? hx
    cases hnew : t.plan.lookup o.start with
    | none => rfl
    | some new =>
      obtain ⟨y, hy, hk, hys⟩ := plan_identifier (List.mem_map.2 ⟨_, mem_of_lookup_eq_some hnew, rfl⟩)
      obtain rfl : y = x := List.inj_on_of_nodup_map hn hy hmem (hys.trans hstart.symm)
      rw [← hstart] at hnew
      have hsame : o'.name = o.name := h.names (o, o') (mem_zip_iff.2 ⟨i, hi, ho'⟩) hfree
      rw [hname', ← hname, Plan.respell, if_pos hk, hnew] at hsame
      exact absurd hsame (unescape_ne_of_keeps t hkeeps he y hy hk new hnew)
  · exact fun hfree => preservesBinding_of_meaning (meaning_rename t hkeeps he false _ [] hfree)

end Tree
end Bookmarklet.Script
