import Bookmarklet.Proofs.Script.Shortening

/-!
# New names are fresh and consistent

A function is simple (`Tree.IsSimple`) if it has a body, no function, class, `with`, template substitution or `eval`
inside, and no parameter with a default of its own. Its locals are what its parameters and declarators bind one by one
(`Tree.BindsLocal`), and it may give them new names (`Tree.GivesNames`): different ones, shorter ones, and none that it
spells.

* The functions for which there is a plan are those that are simple (`Tree.isSome_locals?_iff`).
* What is surveyed has every name that a leaf spells (`Tree.names_of_survey?`), and the names that are bound are locals
  (`Tree.bindsLocal_of_locals?`).
* A plan has what each simple function gives (`Tree.Keeps.of_mem_functions`), and no leaf is in two of them
  (`Tree.pairwise_functions`).
* So the plan of a tree with leaves at different places consists of the new names that its simple functions give
  (`Tree.givesNames_plan`).
-/

namespace Bookmarklet.Script

/-- Tokens that spell a name: of a variable, a property or a label. -/
def Kind.spellsName : Kind → Bool
  | .identifier | .shorthandPropertyIdentifier | .shorthandPropertyIdentifierPattern | .propertyIdentifier
  | .statementIdentifier => true
  | _ => false

namespace Tree

open Plan

/-! ## Simple functions and their locals -/

mutual
/-- The nodes of a tree, itself among them. -/
def nodes : Tree → List Tree
  | leaf info text => [leaf info text]
  | node info children => node info children :: nodesIn children

/-- The nodes of some trees. -/
def nodesIn : List Tree → List Tree
  | [] => []
  | t :: ts => t.nodes ++ nodesIn ts
end

mutual
/-- The leaves of a tree. -/
def leaves : Tree → List (Info × List Char)
  | leaf info text => [(info, text)]
  | node _ children => leavesIn children

/-- The leaves of some trees. -/
def leavesIn : List Tree → List (Info × List Char)
  | [] => []
  | t :: ts => t.leaves ++ leavesIn ts
end

/-- The function has a body, and nothing in it or in its parameters keeps it from giving new names. -/
structure IsSimple (function : Tree) : Prop where
  body : ∃ body, function.part? .body = some body
  nodes : ∀ t ∈ nodesIn function.localParts, t.kind.isFunction = false ∧ t.kind.isClass = false
    ∧ t.kind ≠ .withStatement ∧ t.kind ≠ .templateSubstitution
  leaves : ∀ x ∈ leavesIn function.localParts, x.1.kind = .identifier → x.2 ≠ "eval".toList
  parameters : ∀ p ∈ function.parameters?, p.kind = .identifier ∨ ∀ c ∈ p.children, c.kind ≠ .assignmentPattern

/-- A declarator of a declaration binds a name by itself. -/
def DeclaresName (t : Tree) (name : List Char) : Prop :=
  ∃ declarator ∈ t.children, declarator.kind = .variableDeclarator
    ∧ ∃ part, declarator.part? .name = some part ∧ part.kind = .identifier ∧ part.text = name

/-- A function binds a name by itself: as a parameter, by a declaration at the top level of its block, or with `var`. -/
inductive BindsLocal (function : Tree) (name : List Char) : Prop
  | sole {p : Tree} (hp : function.parameters? = some p) (hk : p.kind = .identifier) (hn : p.text = name)
  | parameter {p c : Tree} (hp : function.parameters? = some p) (hc : c ∈ p.children) (hk : c.kind = .identifier)
      (hn : c.text = name)
  | topLevel {body t : Tree} (hb : function.part? .body = some body) (hblock : body.kind = .statementBlock)
      (ht : t ∈ body.children) (hk : t.kind = .lexicalDeclaration ∨ t.kind = .variableDeclaration)
      (hn : t.DeclaresName name)
  | var {body t : Tree} (hb : function.part? .body = some body) (ht : t ∈ body.nodes)
      (hk : t.kind = .variableDeclaration) (hn : t.DeclaresName name)

/-- A function gives new names to locals, and a plan has them for all identifiers that spell these. -/
structure GivesNames (function : Tree) (plan : Plan) (names : List Char → Option (List Char)) : Prop where
  binds : ∀ {name new}, names name = some new → function.BindsLocal name
  injective : ∀ {name name' new}, names name = some new → names name' = some new → name = name'
  lookup : ∀ x ∈ leavesIn function.localParts,
    plan.lookup x.1.start.byte = if x.1.kind = .identifier then names x.2 else none
  fresh : ∀ {name new}, names name = some new → ∀ x ∈ leavesIn function.localParts, x.1.kind.spellsName → x.2 ≠ new
  unreserved : ∀ {name new}, names name = some new → new ∉ reserved
  unshared : ∀ {name new}, names name = some new → ∀ x ∈ leavesIn function.localParts,
    x.1.kind = .shorthandPropertyIdentifier ∨ x.1.kind = .shorthandPropertyIdentifierPattern → x.2 ≠ name
  shorter : ∀ {name new}, names name = some new → Text.byteLength new < Text.byteLength name

/-! ## Nodes and leaves -/

theorem nodesIn_eq (ts : List Tree) : nodesIn ts = ts.flatMap nodes := by
  induction ts with
  | nil => rfl
  | cons t ts ih => rw [nodesIn, ih, List.flatMap_cons]

theorem leavesIn_eq (ts : List Tree) : leavesIn ts = ts.flatMap leaves := by
  induction ts with
  | nil => rfl
  | cons t ts ih => rw [leavesIn, ih, List.flatMap_cons]

mutual
theorem nameLeaves_eq : ∀ t : Tree, t.nameLeaves = t.leaves.filter (·.1.kind.namesVariable)
  | leaf info text => by
    rw [nameLeaves, leaves, List.filter_cons]
    rfl
  | node _ children => nameLeavesIn_eq children

theorem nameLeavesIn_eq : ∀ ts : List Tree, nameLeavesIn ts = (leavesIn ts).filter (·.1.kind.namesVariable)
  | [] => rfl
  | t :: ts => by rw [nameLeavesIn, leavesIn, List.filter_append, nameLeaves_eq t, nameLeavesIn_eq ts]
end

/-! ## Surveys -/

theorem isSome_ofLeaf_iff {info : Info} {text : List Char} :
    (Survey.ofLeaf info text).isSome ↔ (info.kind = .identifier → text ≠ "eval".toList) := by
  rw [Survey.ofLeaf]
  split
  next hk =>
    split
    next he => simp [hk, beq_iff_eq.1 he]
    next he =>
      rw [beq_iff_eq] at he
      simpa [hk] using he
  next hk => simp [hk]
  next hk => simp [hk]
  next hk => simp [hk]
  next hk => simp [hk]
  next hk _ _ _ _ => exact ⟨fun _ h => absurd h hk, fun _ => rfl⟩

mutual
/-- A tree is surveyed unless it has an obstacle in it or spells `eval`. -/
theorem isSome_survey?_iff : ∀ {t : Tree}, t.survey?.isSome ↔ (∀ u ∈ t.nodes, isObstacle u.kind = false)
    ∧ ∀ x ∈ t.leaves, x.1.kind = .identifier → x.2 ≠ "eval".toList
  | leaf info text => by
    rw [survey?, nodes, leaves, List.forall_mem_singleton, List.forall_mem_singleton,
      show (leaf info text).kind = info.kind from rfl]
    cases isObstacle info.kind with
    | true => simp
    | false => simp [isSome_ofLeaf_iff]
  | node info children => by
    rw [survey?, nodes, leaves, List.forall_mem_cons, show (node info children).kind = info.kind from rfl]
    cases isObstacle info.kind with
    | true => simp
    | false => simp [isSome_surveyIn?_iff]

theorem isSome_surveyIn?_iff : ∀ {ts : List Tree}, (surveyIn? ts).isSome ↔ (∀ u ∈ nodesIn ts, isObstacle u.kind = false)
    ∧ ∀ x ∈ leavesIn ts, x.1.kind = .identifier → x.2 ≠ "eval".toList
  | [] => by simp [surveyIn?, nodesIn, leavesIn]
  | t :: ts => by
    have hboth : (surveyIn? (t :: ts)).isSome ↔ t.survey?.isSome ∧ (surveyIn? ts).isSome := by
      rw [surveyIn?]
      cases t.survey? <;> cases surveyIn? ts <;> simp
    rw [nodesIn, leavesIn, List.forall_mem_append, List.forall_mem_append, hboth, isSome_survey?_iff,
      isSome_surveyIn?_iff, and_and_and_comm]
end

theorem names_append {a b : Survey} {name : List Char} :
    name ∈ (a.append b).names ↔ name ∈ a.names ∨ name ∈ b.names := by
  simp only [Survey.names, Survey.append, List.map_append, List.mem_append]
  tauto

theorem names_ofLeaf {info : Info} {text : List Char} {s : Survey} (h : Survey.ofLeaf info text = some s)
    (hk : info.kind.spellsName) : text ∈ s.names := by
  rw [Survey.ofLeaf] at h
  split at h
  · split at h
    · cases h
    · cases h
      exact List.mem_singleton_self text
  · cases h
    exact List.mem_singleton_self text
  · cases h
    exact List.mem_singleton_self text
  · cases h
    exact List.mem_singleton_self text
  · cases h
    exact List.mem_singleton_self text
  next =>
    unfold Kind.spellsName at hk
    split at hk <;> simp_all

mutual
/-- A survey has every name that a leaf spells. -/
theorem names_of_survey? : ∀ {t : Tree} {s : Survey}, t.survey? = some s → ∀ x ∈ t.leaves, x.1.kind.spellsName →
    x.2 ∈ s.names
  | leaf info text, s, h, x, hx, hk => by
    cases List.mem_singleton.1 hx
    rw [survey?] at h
    split at h
    · cases h
    · exact names_ofLeaf h hk
  | node info children, s, h, x, hx, hk => by
    rw [survey?] at h
    split at h
    · cases h
    · exact names_of_surveyIn? h x hx hk

theorem names_of_surveyIn? : ∀ {ts : List Tree} {s : Survey}, surveyIn? ts = some s →
    ∀ x ∈ leavesIn ts, x.1.kind.spellsName → x.2 ∈ s.names
  | [], _, _, _, hx, _ => nomatch hx
  | t :: ts, s, h, x, hx, hk => by
    rw [surveyIn?] at h
    split at h
    next a b ha hb =>
      cases h
      rw [names_append]
      exact (List.mem_append.1 hx).imp (names_of_survey? ha x · hk) (names_of_surveyIn? hb x · hk)
    next => cases h
end

/-! ## The names that are bound -/

theorem locals?_eq_some_iff {f : Tree} {survey : Survey} {bound : List (List Char)} :
    f.locals? = some (survey, bound) ↔ ∃ body names, f.part? .body = some body
      ∧ surveyIn? f.localParts = some survey ∧ f.parameters?.toList.mapM parameterNames? = some names
      ∧ bound = names.flatten ++ body.topLevelNames ++ body.varDeclaratorNames := by
  rw [locals?, localParts, ← parameters?]
  cases f.part? .body with
  | none => simp
  | some body =>
    simp only [Option.bind_eq_bind, Option.bind_some, Option.bind_eq_some_iff, Option.pure_def, Option.some.injEq,
      Prod.mk.injEq, Option.toList_some]
    constructor
    · rintro ⟨survey, hsurvey, names, hnames, rfl, rfl⟩
      exact ⟨body, names, rfl, hsurvey, hnames, rfl⟩
    · rintro ⟨_, names, rfl, hsurvey, hnames, rfl⟩
      exact ⟨survey, hsurvey, names, hnames, rfl, rfl⟩

theorem isSome_parameterNames?_iff {p : Tree} :
    p.parameterNames?.isSome ↔ p.kind = .identifier ∨ ∀ c ∈ p.children, c.kind ≠ .assignmentPattern := by
  rw [parameterNames?]
  split
  next hk => simp [hk]
  next hk =>
    split
    next hd => simpa [hk] using hd
    next hd => simpa [hk] using hd

/-- The functions that there is a plan for are those that are simple. -/
theorem isSome_locals?_iff {f : Tree} : f.locals?.isSome ↔ f.IsSimple := by
  have hobstacle : ∀ t : Tree, isObstacle t.kind = false ↔ t.kind.isFunction = false ∧ t.kind.isClass = false
      ∧ t.kind ≠ .withStatement ∧ t.kind ≠ .templateSubstitution := fun t => by
    simp [isObstacle, and_assoc]
  have hparameters : (f.parameters?.toList.mapM parameterNames?).isSome
      ↔ ∀ p ∈ f.parameters?, p.kind = .identifier ∨ ∀ c ∈ p.children, c.kind ≠ .assignmentPattern := by
    cases f.parameters? with
    | none => simp
    | some p =>
      rw [show (some p).toList = [p] from rfl, List.mapM_cons]
      cases hp : p.parameterNames? with
      | none => simp [← isSome_parameterNames?_iff, hp]
      | some names => simp [← isSome_parameterNames?_iff, hp]
  constructor
  · intro h
    obtain ⟨⟨survey, bound⟩, h⟩ := Option.isSome_iff_exists.1 h
    obtain ⟨body, names, hbody, hsurvey, hnames, -⟩ := locals?_eq_some_iff.1 h
    obtain ⟨hnodes, hleaves⟩ := isSome_surveyIn?_iff.1 (Option.isSome_of_eq_some hsurvey)
    exact ⟨⟨body, hbody⟩, fun t ht => (hobstacle t).1 (hnodes t ht), hleaves,
      hparameters.1 (Option.isSome_of_eq_some hnames)⟩
  · rintro ⟨⟨body, hbody⟩, hnodes, hleaves, hdefault⟩
    obtain ⟨survey, hsurvey⟩ := Option.isSome_iff_exists.1
      (isSome_surveyIn?_iff.2 ⟨fun t ht => (hobstacle t).2 (hnodes t ht), hleaves⟩)
    obtain ⟨names, hnames⟩ := Option.isSome_iff_exists.1 (hparameters.2 hdefault)
    exact Option.isSome_of_eq_some (locals?_eq_some_iff.2 ⟨body, names, hbody, hsurvey, hnames, rfl⟩)

theorem declaresName_of_mem {t : Tree} {name : List Char} (h : name ∈ t.declaratorNames) : t.DeclaresName name := by
  rw [declaratorNames, List.mem_filterMap] at h
  obtain ⟨declarator, hd, h⟩ := h
  split at h
  next hk =>
    obtain ⟨part, hpart, rfl⟩ := Option.map_eq_some_iff.1 h
    obtain ⟨hpart, hidentifier⟩ := Option.filter_eq_some_iff.1 hpart
    exact ⟨declarator, hd, hk, part, hpart, of_decide_eq_true hidentifier, rfl⟩
  next => cases h

mutual
theorem exists_of_mem_varDeclaratorNames : ∀ {t : Tree} {name : List Char}, name ∈ t.varDeclaratorNames →
    ∃ u ∈ t.nodes, u.kind = .variableDeclaration ∧ u.DeclaresName name
  | leaf _ _, _, h => nomatch h
  | node info children, name, h => by
    rcases List.mem_append.1 h with h | h
    · split at h
      next hk => exact ⟨node info children, List.mem_cons_self, hk, declaresName_of_mem h⟩
      next => cases h
    · obtain ⟨u, hu, h⟩ := exists_of_mem_varDeclaratorNamesIn h
      exact ⟨u, List.mem_cons_of_mem _ hu, h⟩

theorem exists_of_mem_varDeclaratorNamesIn : ∀ {ts : List Tree} {name : List Char}, name ∈ varDeclaratorNamesIn ts →
    ∃ u ∈ nodesIn ts, u.kind = .variableDeclaration ∧ u.DeclaresName name
  | [], _, h => nomatch h
  | t :: ts, name, h => by
    rcases List.mem_append.1 h with h | h
    · obtain ⟨u, hu, h⟩ := exists_of_mem_varDeclaratorNames h
      exact ⟨u, List.mem_append_left _ hu, h⟩
    · obtain ⟨u, hu, h⟩ := exists_of_mem_varDeclaratorNamesIn h
      exact ⟨u, List.mem_append_right _ hu, h⟩
end

/-- The names that are bound are locals. -/
theorem bindsLocal_of_locals? {f : Tree} {survey : Survey} {bound : List (List Char)}
    (h : f.locals? = some (survey, bound)) {name : List Char} (hn : name ∈ bound) : f.BindsLocal name := by
  obtain ⟨body, names, hbody, -, hnames, rfl⟩ := locals?_eq_some_iff.1 h
  rw [List.mem_append, List.mem_append] at hn
  rcases hn with (hn | hn) | hn
  · cases hp : f.parameters? with
    | none =>
      rw [hp] at hnames
      cases hnames
      cases hn
    | some p =>
      have hnames : p.parameterNames? = some names.flatten := by
        rw [hp, show (some p).toList = [p] from rfl, List.mapM_cons, List.mapM_nil] at hnames
        obtain ⟨found, hfound, hnames⟩ := Option.bind_eq_some_iff.1 hnames
        cases hnames
        simpa using hfound
      rw [parameterNames?] at hnames
      split at hnames
      next hk =>
        cases Option.some.inj hnames ▸ hn with
        | head => exact .sole hp hk rfl
        | tail _ h => cases h
      next hk =>
        split at hnames
        · cases hnames
        next =>
          rw [← Option.some.inj hnames] at hn
          obtain ⟨c, hc, rfl⟩ := List.mem_map.1 hn
          obtain ⟨hc, hk⟩ := List.mem_filter.1 hc
          exact .parameter hp hc (of_decide_eq_true hk) rfl
  · rw [topLevelNames] at hn
    split at hn
    next hblock =>
      obtain ⟨t, ht, hn⟩ := List.mem_flatMap.1 hn
      split at hn
      next hk => exact .topLevel hbody hblock ht (.inl hk) (declaresName_of_mem hn)
      next hk => exact .topLevel hbody hblock ht (.inr hk) (declaresName_of_mem hn)
      next => cases hn
    next => cases hn
  · obtain ⟨t, ht, hk, hn⟩ := exists_of_mem_varDeclaratorNames hn
    exact .var hbody ht hk hn

end Tree

/-! ## New names are shorter -/

theorem byteLength_append (a b : List Char) : Text.byteLength (a ++ b) = Text.byteLength a + Text.byteLength b := by
  induction a with
  | nil => exact (Nat.zero_add _).symm
  | cons c a ih => rw [List.cons_append, Text.byteLength, Text.byteLength, ih, Nat.add_assoc]

/-- The letters of a fresh name take a byte each. -/
theorem FreshName.byteLength_spell (n : Nat) : Text.byteLength (spell n) = (spell n).length := by
  have hletter : ∀ m < 26, Text.byteLength [letter m] = 1 := by decide
  rw [spell_eq, byteLength_append, List.length_append, hletter _ (Nat.mod_lt n (by omega)), List.length_singleton]
  split
  · rfl
  · rw [byteLength_spell (n / 26 - 1)]
termination_by n

theorem Plan.assign_shorter {taken names : List (List Char)} {n : Nat} {e : List Char × List Char}
    (h : e ∈ assign taken n names) : Text.byteLength e.2 < Text.byteLength e.1 := by
  induction names generalizing n with
  | nil => cases h
  | cons name names ih =>
    rw [assign] at h
    split at h
    next hlt =>
      rcases List.mem_cons.1 h with rfl | h
      · rwa [FreshName.byteLength_spell]
      · exact ih h
    · exact ih h

theorem Plan.mem_foldl_addName {names found : List (List Char)} {name : List Char}
    (h : name ∈ names.foldl addName found) :
    name ∈ found ∨ name ∈ names := by
  induction names generalizing found with
  | nil => exact .inl h
  | cons a names ih =>
    rcases ih h with h | h
    · rw [addName] at h
      split at h
      · exact .inl h
      · rcases List.mem_append.1 h with h | h
        · exact .inl h
        · exact .inr (List.mem_singleton.1 h ▸ List.mem_cons_self)
    · exact .inr (List.mem_cons_of_mem a h)

namespace Tree

open Plan

/-! ## The functions of a tree -/

theorem leavesIn_localParts {f : Tree} {x : Info × List Char} (h : x ∈ leavesIn f.localParts) :
    ∃ i c, f.isLocalPart i ∧ f.children[i]? = some c ∧ x ∈ c.leaves := by
  rw [leavesIn_eq] at h
  obtain ⟨c, hc, hx⟩ := List.mem_flatMap.1 h
  obtain ⟨i, hp, hi⟩ := mem_localParts.1 hc
  exact ⟨i, c, hp, hi, hx⟩

theorem exists_of_mem_functionsIn {f : Tree} : ∀ {ts : List Tree}, f ∈ functionsIn ts →
    ∃ (i : Nat) (c : Tree), ts[i]? = some c ∧ f ∈ c.functions
  | [], h => nomatch h
  | t :: ts, h => by
    rcases List.mem_append.1 h with h | h
    · exact ⟨0, t, rfl, h⟩
    · obtain ⟨i, c, hi, h⟩ := exists_of_mem_functionsIn h
      exact ⟨i + 1, c, hi, h⟩

mutual
theorem mem_nodes_of_mem_functions : ∀ {t f : Tree}, f ∈ t.functions → f ∈ t.nodes ∧ f.kind.isFunction
  | leaf _ _, _, h => nomatch h
  | node info children, f, h => by
    rcases List.mem_append.1 h with h | h
    · split at h
      next hf =>
        cases List.mem_singleton.1 h
        exact ⟨List.mem_cons_self, hf⟩
      next => cases h
    · exact (mem_nodesIn_of_mem_functionsIn h).imp_left (List.mem_cons_of_mem _)

theorem mem_nodesIn_of_mem_functionsIn : ∀ {ts : List Tree} {f : Tree}, f ∈ functionsIn ts →
    f ∈ nodesIn ts ∧ f.kind.isFunction
  | [], _, h => nomatch h
  | t :: ts, f, h => by
    rcases List.mem_append.1 h with h | h
    · exact (mem_nodes_of_mem_functions h).imp_left (List.mem_append_left _)
    · exact (mem_nodesIn_of_mem_functionsIn h).imp_left (List.mem_append_right _)
end

/-- There is no function in the parameters and the body of a simple one. -/
theorem IsSimple.not_mem_functions {f g c : Tree} (h : f.IsSimple) {i : Nat} (hp : f.isLocalPart i)
    (hi : f.children[i]? = some c) : g ∉ c.functions := fun hg => by
  obtain ⟨hnode, hf⟩ := mem_nodes_of_mem_functions hg
  have hm : g ∈ nodesIn f.localParts := nodesIn_eq _ ▸ List.mem_flatMap.2 ⟨c, mem_localParts.2 ⟨i, hp, hi⟩, hnode⟩
  rw [(h.nodes g hm).1] at hf
  cases hf

mutual
theorem mem_leaves_of_mem_functions : ∀ {t f : Tree} {x : Info × List Char}, f ∈ t.functions →
    x ∈ leavesIn f.localParts → x ∈ t.leaves
  | leaf _ _, _, _, h, _ => nomatch h
  | node info children, f, x, h, hx => by
    rcases List.mem_append.1 h with h | h
    · split at h
      next =>
        cases List.mem_singleton.1 h
        obtain ⟨i, c, -, hi, hx⟩ := leavesIn_localParts hx
        rw [leaves, leavesIn_eq]
        exact List.mem_flatMap.2 ⟨c, List.mem_of_getElem? hi, hx⟩
      next => cases h
    · exact mem_leavesIn_of_mem_functionsIn h hx

theorem mem_leavesIn_of_mem_functionsIn : ∀ {ts : List Tree} {f : Tree} {x : Info × List Char}, f ∈ functionsIn ts →
    x ∈ leavesIn f.localParts → x ∈ leavesIn ts
  | [], _, _, h, _ => nomatch h
  | t :: ts, f, x, h, hx => by
    rcases List.mem_append.1 h with h | h
    · exact List.mem_append_left _ (mem_leaves_of_mem_functions h hx)
    · exact List.mem_append_right _ (mem_leavesIn_of_mem_functionsIn h hx)
end

/-- A leaf with a place of its own is in one child only. -/
theorem index_eq_of_mem_leaves {ts : List Tree} (hn : ((leavesIn ts).map (·.1.start.byte)).Nodup) {i j : Nat}
    {c d : Tree} (hi : ts[i]? = some c) (hj : ts[j]? = some d) {x : Info × List Char} (hc : x ∈ c.leaves)
    (hd : x ∈ d.leaves) : i = j := by
  rw [leavesIn_eq, List.map_flatMap] at hn
  have hpair := List.pairwise_iff_getElem.1 (List.pairwise_flatMap.1 hn).2
  obtain ⟨hi', rfl⟩ := List.getElem?_eq_some_iff.1 hi
  obtain ⟨hj', rfl⟩ := List.getElem?_eq_some_iff.1 hj
  have hc := List.mem_map_of_mem (f := (·.1.start.byte)) hc
  have hd := List.mem_map_of_mem (f := (·.1.start.byte)) hd
  rcases Nat.lt_trichotomy i j with hlt | heq | hlt
  · exact absurd rfl (hpair i j hi' hj' hlt _ hc _ hd)
  · exact heq
  · exact absurd rfl (hpair j i hj' hi' hlt _ hd _ hc)

/-- No leaf is in the parameters or the bodies of two simple functions. -/
def Apart (f g : Tree) : Prop :=
  f.IsSimple → g.IsSimple → ∀ x ∈ leavesIn f.localParts, x ∉ leavesIn g.localParts

mutual
theorem pairwise_functions : ∀ {t : Tree}, (t.leaves.map (·.1.start.byte)).Nodup → t.functions.Pairwise Apart
  | leaf _ _, _ => List.Pairwise.nil
  | node info children, hn => by
    rw [functions]
    refine List.pairwise_append.2 ⟨?_, pairwise_functionsIn hn, fun f hf g hg hsimple _ x hx hx' => ?_⟩
    · split
      · exact List.pairwise_singleton _ _
      · exact List.Pairwise.nil
    · split at hf
      next =>
        cases List.mem_singleton.1 hf
        obtain ⟨i, c, hp, hi, hx⟩ := leavesIn_localParts hx
        obtain ⟨j, d, hj, hg⟩ := exists_of_mem_functionsIn hg
        have hne : i ≠ j := by
          rintro rfl
          cases Option.some.inj (hi.symm.trans hj)
          exact hsimple.not_mem_functions hp hi hg
        have hx' := mem_leaves_of_mem_functions hg hx'
        exact hne (index_eq_of_mem_leaves hn hi hj hx hx')
      next => cases hf

theorem pairwise_functionsIn : ∀ {ts : List Tree}, ((leavesIn ts).map (·.1.start.byte)).Nodup →
    (functionsIn ts).Pairwise Apart
  | [], _ => List.Pairwise.nil
  | t :: ts, hn => by
    rw [leavesIn, List.map_append, List.nodup_append] at hn
    rw [functionsIn]
    refine List.pairwise_append.2
      ⟨pairwise_functions hn.1, pairwise_functionsIn hn.2.1, fun f hf g hg _ _ x hx hx' => ?_⟩
    exact hn.2.2 _ (List.mem_map_of_mem (mem_leaves_of_mem_functions hf hx)) _
      (List.mem_map_of_mem (mem_leavesIn_of_mem_functionsIn hg hx')) rfl
end

/-! ## What a plan has for them -/

mutual
theorem exists_of_mem_plan : ∀ {t : Tree} {e : Nat × List Char}, e ∈ t.plan → ∃ f ∈ t.functions, e ∈ f.functionPlan
  | leaf _ _, _, h => nomatch h
  | node info children, e, h => by
    rw [plan] at h
    rcases List.mem_append.1 h with h | h
    · split at h
      next hf =>
        rw [functions, if_pos hf]
        exact ⟨_, List.mem_append_left _ (List.mem_singleton_self _), h⟩
      next => cases h
    · obtain ⟨f, hf, h⟩ := exists_of_mem_planIn h
      exact ⟨f, List.mem_append_right _ hf, h⟩

theorem exists_of_mem_planIn : ∀ {ts : List Tree} {e : Nat × List Char}, e ∈ planIn ts →
    ∃ f ∈ functionsIn ts, e ∈ f.functionPlan
  | [], _, h => nomatch h
  | t :: ts, e, h => by
    rcases List.mem_append.1 h with h | h
    · obtain ⟨f, hf, h⟩ := exists_of_mem_plan h
      exact ⟨f, List.mem_append_left _ hf, h⟩
    · obtain ⟨f, hf, h⟩ := exists_of_mem_planIn h
      exact ⟨f, List.mem_append_right _ hf, h⟩
end

theorem leaf_of_mem_functionPlan {f : Tree} {e : Nat × List Char} (h : e ∈ f.functionPlan) :
    ∃ survey bound, f.locals? = some (survey, bound) ∧ ∃ x ∈ nameLeavesIn f.localParts,
      x.1.kind = .identifier ∧ x.1.start.byte = e.1 ∧ (mapping survey bound).lookup x.2 = some e.2 := by
  rw [functionPlan] at h
  split at h
  · cases h
  next survey bound hl =>
    obtain ⟨⟨start, name⟩, hm, heq⟩ := List.mem_filterMap.1 h
    obtain ⟨new, hnew, rfl⟩ := Option.map_eq_some_iff.1 heq
    obtain ⟨info, hx, hk, hs⟩ := ((surveys_of_surveyIn? (locals?_eq_some hl)).identifiers _ _).1 hm
    exact ⟨survey, bound, hl, _, hx, hk, hs, hnew⟩

/-- A plan has for the identifiers in a simple function the new names that the function gives. -/
theorem Keeps.of_mem_functions {plan : Plan} : ∀ {t : Tree}, Keeps plan t → ∀ {f : Tree}, f ∈ t.functions →
    ∀ {survey : Survey} {bound : List (List Char)}, f.locals? = some (survey, bound) →
    ∀ x ∈ nameLeavesIn f.localParts, x.1.kind = .identifier →
    plan.lookup x.1.start.byte = (mapping survey bound).lookup x.2
  | leaf _ _, _, _, hf, _, _, _, _, _, _ => nomatch hf
  | node info children, h, f, hf, survey, bound, hl, x, hx, hk => by
    rcases List.mem_append.1 hf with hf | hf
    · split at hf
      next hfunction =>
        cases List.mem_singleton.1 hf
        obtain ⟨c, hc, hx⟩ := mem_nameLeavesIn.1 hx
        obtain ⟨i, hp, hi⟩ := mem_localParts.1 hc
        exact h.localPart hi hfunction hl hp hx hk
      next => cases hf
    · obtain ⟨i, c, hi, hf⟩ := exists_of_mem_functionsIn hf
      have hmem := List.mem_of_getElem? hi
      refine (h.child hi fun hfunction hsome hp => ?_).of_mem_functions hf hl x hx hk
      exact (isSome_locals?_iff.1 hsome).not_mem_functions hp hi hf
termination_by t => sizeOf t
decreasing_by
  have := List.sizeOf_lt_of_mem hmem
  simp
  omega

/-- The entries of a plan are the new names that the simple functions of a tree give. -/
structure IsFreshRenaming (t : Tree) (plan : Plan) : Prop where
  entry : ∀ e ∈ plan, plan.lookup e.1 = some e.2 ∧ ∃ x ∈ t.leaves, x.1.kind = .identifier ∧ x.1.start.byte = e.1
    ∧ ∃! i : Nat, ∃ f : Tree, t.functions[i]? = some f ∧ f.IsSimple ∧ x ∈ leavesIn f.localParts
  function : ∀ f ∈ t.functions, f.IsSimple → ∃ names, f.GivesNames plan names

section FreshRenaming

variable {t : Tree} (hn : (t.leaves.map (·.1.start.byte)).Nodup)
include hn

theorem keeps_plan : Keeps t.plan t where
  nodup := by
    rw [nameStarts, nameLeaves_eq]
    exact hn.sublist (List.filter_sublist.map _)
  lookup _ _ := rfl

theorem givesNames_of_locals? {f : Tree} (hf : f ∈ t.functions) {survey : Survey} {bound : List (List Char)}
    (hl : f.locals? = some (survey, bound)) : f.GivesNames t.plan fun name => (mapping survey bound).lookup name := by
  have hsurvey := locals?_eq_some hl
  have hkey : ∀ {name new}, (mapping survey bound).lookup name = some new → name ∈ (mapping survey bound).map (·.1) :=
    fun h => List.mem_map_of_mem (f := (·.1)) (mem_of_lookup_eq_some h)
  have hvalue : ∀ {name new}, (mapping survey bound).lookup name = some new → new ∈ (mapping survey bound).map (·.2) :=
    fun h => List.mem_map_of_mem (f := (·.2)) (mem_of_lookup_eq_some h)
  exact {
    binds := fun h => by
      have hm := (List.mem_filter.1 ((assign_keys _ _ _).subset (hkey h))).1
      exact bindsLocal_of_locals? hl ((mem_foldl_addName hm).resolve_left List.not_mem_nil)
    injective := fun h h' => congrArg Prod.fst (List.inj_on_of_nodup_map (mapping_values_nodup survey bound)
      (mem_of_lookup_eq_some h) (mem_of_lookup_eq_some h') rfl)
    lookup := fun x hx => by
      split
      next hk =>
        refine (keeps_plan hn).of_mem_functions hf hl x ?_ hk
        rw [nameLeavesIn_eq]
        exact List.mem_filter.2 ⟨hx, by simp [Kind.namesVariable, hk]⟩
      next hk =>
        refine lookup_eq_none_of_not_mem fun hm => hk ?_
        obtain ⟨y, hy, hidentifier, hstart⟩ := plan_identifier hm
        have hy : y ∈ t.leaves := List.mem_of_mem_filter (nameLeaves_eq t ▸ hy)
        rwa [← List.inj_on_of_nodup_map hn hy (mem_leaves_of_mem_functions hf hx) hstart]
    fresh := fun h x hx hk heq =>
      (not_mem_of_mapping_value survey bound (hvalue h)).1 (heq ▸ names_of_surveyIn? hsurvey x hx hk)
    unreserved := fun h => (not_mem_of_mapping_value survey bound (hvalue h)).2
    unshared := fun h x hx hk heq => by
      refine (mapping_keys survey bound (hkey h)).1 (heq ▸ (surveys_of_surveyIn? hsurvey).shorthands x.1 x.2 ?_ ?_)
      · rw [nameLeavesIn_eq]
        exact List.mem_filter.2 ⟨hx, by rcases hk with hk | hk <;> simp [Kind.namesVariable, hk]⟩
      · rcases hk with hk | hk <;> simp [hk]
    shorter := fun h => assign_shorter (mem_of_lookup_eq_some h) }

/-- The plan of a tree with leaves at different places gives new names consistently, and gives only fresh ones. -/
theorem isFreshRenaming_plan : t.IsFreshRenaming t.plan where
  entry e he := by
    obtain ⟨f, hf, he⟩ := exists_of_mem_plan he
    obtain ⟨survey, bound, hl, x, hx, hk, hstart, hnew⟩ := leaf_of_mem_functionPlan he
    have hx' : x ∈ leavesIn f.localParts := List.mem_of_mem_filter (nameLeavesIn_eq _ ▸ hx)
    have hsimple := isSome_locals?_iff.1 (Option.isSome_of_eq_some hl)
    refine ⟨hstart ▸ ((keeps_plan hn).of_mem_functions hf hl x hx hk).trans hnew, x,
      mem_leaves_of_mem_functions hf hx', hk, hstart, ?_⟩
    obtain ⟨i, hi⟩ := List.getElem?_of_mem hf
    refine ⟨i, ⟨f, hi, hsimple, hx'⟩, ?_⟩
    rintro j ⟨g, hj, hg, hx''⟩
    have hpair := List.pairwise_iff_getElem.1 (pairwise_functions hn)
    obtain ⟨hi', rfl⟩ := List.getElem?_eq_some_iff.1 hi
    obtain ⟨hj', rfl⟩ := List.getElem?_eq_some_iff.1 hj
    rcases Nat.lt_trichotomy i j with hlt | heq | hlt
    · exact absurd hx'' (hpair i j hi' hj' hlt hsimple hg x hx')
    · exact heq.symm
    · exact absurd hx' (hpair j i hj' hi' hlt hg hsimple x hx'')
  function f hf hsimple := by
    obtain ⟨⟨survey, bound⟩, hl⟩ := Option.isSome_iff_exists.1 (isSome_locals?_iff.2 hsimple)
    exact ⟨_, givesNames_of_locals? hn hf hl⟩

omit hn in
theorem isFreshRenaming_plan_methods : ∃ t,
    check "o = \x7b sum(left, right) \x7b let total = left + right; return \x7b total, left: total \x7d \x7d \x7d".toList = .ok t
      ∧ (t.leaves.map (·.1.start.byte)).Nodup ∧ t.plan.length = 4 ∧ t.IsFreshRenaming t.plan := by
  have h : (check "o = \x7b sum(left, right) \x7b let total = left + right; return \x7b total, left: total \x7d \x7d \x7d".toList
      ).toOption.any (fun t => decide (t.leaves.map (·.1.start.byte)).Nodup && t.plan.length = 4) = true := by
    decide +kernel
  obtain ⟨t, ht, hall⟩ := exists_of_any_check h
  simp only [Bool.and_eq_true, decide_eq_true_eq] at hall
  exact ⟨t, ht, hall.1, hall.2, isFreshRenaming_plan hall.1⟩

end FreshRenaming

end Tree
end Bookmarklet.Script
