import Bookmarklet.Proofs.Script.Layout
import Bookmarklet.Proofs.Script.Preservation
import Bookmarklet.Proofs.Script.Tidy
import Bookmarklet.Proofs.Script.Walk

/-!
# Shorter names and early errors

The first offence in a script is the same with the names of its plan, apart from the name in it
(`Tree.programViolation?_rename_plan`).

* A plan changes all names that one scope compares in one way, and names that differ still do (`Tree.Respells`): it
  leaves them as they are, or they stand in one function that is simple enough. So a scope clashes if and only if it did
  (`Scope.clash?_map`).
* Whatever else the walk reads of a tidy tree is no name of a variable: labels, directives, and the kinds of nodes
  (`Tree.contextBelow_rename`). So the walk goes the same way (`Tree.keepsWalk_rename`).
-/

namespace Bookmarklet.Script

/-! ## Scopes with other names -/

/-- A lexical declaration of another name. -/
def Binding.map (σ : List Char → List Char) (b : Binding) : Binding := { b with name := σ b.name }

namespace Scope

/-- A scope with other names. -/
def map (σ : List Char → List Char) (scope : Scope) : Scope where
  lexical := scope.lexical.map (Binding.map σ)
  vars := scope.vars.map σ

/-- A scope with the names that it has is the same. -/
theorem map_id (scope : Scope) : scope.map id = scope := by
  have hbinding : Binding.map id = id := rfl
  rw [map, hbinding, List.map_id, List.map_id]

section Map

variable {σ : List Char → List Char} (hσ : ∀ a b, σ a = σ b → a = b) (strict : Bool)
include hσ

theorem excludes_map (a b : Binding) : excludes strict (a.map σ) (b.map σ) = excludes strict a b := by
  have hname : (σ a.name == σ b.name) = (a.name == b.name) := by
    rw [Bool.eq_iff_iff, beq_iff_eq, beq_iff_eq]
    exact ⟨hσ _ _, congrArg σ⟩
  simp only [excludes, Binding.map, hname]

theorem clashAfter?_map (vars : List (List Char)) : ∀ bs earlier : List Binding,
    clashAfter? strict (vars.map σ) (earlier.map (Binding.map σ)) (bs.map (Binding.map σ))
      = (clashAfter? strict vars earlier bs).map σ
  | [], _ => rfl
  | b :: bs, earlier => by
    have hearlier : (earlier.map (Binding.map σ)).any (excludes strict · (b.map σ))
        = earlier.any (excludes strict · b) := by
      rw [List.any_map]
      congr 1
      funext a
      exact excludes_map hσ strict a b
    have hvars : (vars.map σ).contains (σ b.name) = vars.contains b.name := by
      rw [Bool.eq_iff_iff, List.contains_iff_mem, List.contains_iff_mem, List.mem_map]
      exact ⟨fun ⟨n, hn, heq⟩ => hσ _ _ heq ▸ hn, fun h => ⟨_, h, rfl⟩⟩
    rw [List.map_cons, clashAfter?, clashAfter?, hearlier, show (b.map σ).name = σ b.name from rfl, hvars]
    split
    · rfl
    · exact clashAfter?_map vars bs (b :: earlier)

/-- Names that stay different clash as they did. -/
theorem clash?_map (scope : Scope) : (scope.map σ).clash? strict = (scope.clash? strict).map σ :=
  clashAfter?_map hσ strict scope.vars scope.lexical []

end Map
end Scope

namespace Tree

open Plan

/-! ## How a plan changes names -/

/-- A plan changes the names in a tree as the tree's own plan does, or all of them in one way, in a part of a function
that is simple enough. -/
inductive Respells (plan : Plan) : (List Char → List Char) → Tree → Prop
  | own {t : Tree} (h : Keeps plan t) : Respells plan id t
  | inside {σ : List Char → List Char} {t : Tree} (hσ : ∀ a b, σ a = σ b → a = b) (hs : t.survey?.isSome)
      (hx : ∀ x ∈ t.nameLeaves, plan.respell x.1 x.2 = σ x.2) : Respells plan σ t

section Respells

variable {plan : Plan} {σ : List Char → List Char} {t : Tree} (h : t.Respells plan σ)
include h

theorem Respells.injective (a b : List Char) (heq : σ a = σ b) : a = b := by
  cases h with
  | own _ => exact heq
  | inside hσ _ _ => exact hσ a b heq

theorem Respells.spells : t.Spells id plan σ := by
  cases h with
  | own h => exact h.spells
  | inside _ _ hx => exact spells_of_leaves hx

/-- The children of a node other than a function have their names changed as the node has. -/
theorem Respells.child (hf : t.kind.isFunction = false) {c : Tree} (hc : c ∈ t.children) : c.Respells plan σ := by
  cases t with
  | leaf info text => cases hc
  | node info children =>
    cases h with
    | own h =>
      obtain ⟨i, hi⟩ := List.mem_iff_getElem?.1 hc
      exact .own (h.child hi fun hf' => absurd hf' (by rw [show info.kind.isFunction = false from hf]; decide))
    | inside hσ hs hx =>
      rw [survey?] at hs
      split at hs
      · cases hs
      · exact .inside hσ (survey?_of_mem hs c hc) fun x hx' => hx x (mem_nameLeavesIn.2 ⟨c, hc, hx'⟩)

theorem Respells.spellsIn (hf : t.kind.isFunction = false) : ∀ c ∈ t.children, c.Spells id plan σ :=
  fun _ hc => (h.child hf hc).spells

/-- There are no functions inside a function that is simple enough. -/
theorem Respells.keeps (hf : t.kind.isFunction) : Keeps plan t := by
  cases h with
  | own h => exact h
  | inside _ hs _ =>
    have ho : isObstacle t.kind = true := by rw [isObstacle, hf]; rfl
    have hnone : t.survey? = none := by cases t <;> exact if_pos ho
    rw [hnone] at hs
    cases hs

/-- The parameters and the body of a function have their names changed in one way. -/
theorem Respells.localParts (hf : t.kind.isFunction) :
    ∃ σ', (∀ a b, σ' a = σ' b → a = b) ∧ ∀ c ∈ t.localParts, c.Respells plan σ' := by
  have hkeeps := h.keeps hf
  cases t with
  | leaf info text => exact ⟨id, fun _ _ heq => heq, nofun⟩
  | node info children =>
    cases hl : (node info children).locals? with
    | none =>
      refine ⟨id, fun _ _ heq => heq, fun c hc => ?_⟩
      obtain ⟨i, -, hi⟩ := mem_localParts.1 hc
      exact .own (hkeeps.child hi fun _ hs => by rw [hl] at hs; cases hs)
    | some locals =>
      refine ⟨respelling locals.1 locals.2, fun _ _ => respelling_injective, fun c hc => ?_⟩
      obtain ⟨i, hp, hi⟩ := mem_localParts.1 hc
      exact .inside (fun _ _ => respelling_injective)
        (survey?_of_mem (Option.isSome_of_eq_some (locals?_eq_some hl)) c hc)
        fun x hx => respell_eq_respelling hkeeps hi hf hl hp hx

/-- Each child of a node has its names changed in some way. -/
theorem Respells.exists_child {c : Tree} (hc : c ∈ t.children) : ∃ σ', c.Respells plan σ' := by
  by_cases hf : t.kind.isFunction
  · by_cases hl : c ∈ t.localParts
    · obtain ⟨σ', -, hparts⟩ := h.localParts hf
      exact ⟨σ', hparts c hl⟩
    · have hkeeps := h.keeps hf
      cases t with
      | leaf info text => cases hc
      | node info children =>
        obtain ⟨i, hi⟩ := List.mem_iff_getElem?.1 hc
        exact ⟨id, .own (hkeeps.child hi fun _ _ hp => hl (mem_localParts.2 ⟨i, hp, hi⟩))⟩
  · exact ⟨σ, h.child (by simpa using hf) hc⟩

end Respells

/-! ## What is no name of a variable -/

section Rename

variable {plan : Plan}

mutual
/-- A tree without names of variables stays as it is. -/
theorem rename_of_nameLeaves : ∀ {t : Tree}, t.nameLeaves = [] → t.rename plan = t
  | leaf info text, h => by
    have hk : info.kind ≠ .identifier := fun hk => by
      rw [nameLeaves, hk] at h
      cases h
    rw [rename, Plan.respell, if_neg hk]
  | node info children, h => by rw [rename, renameIn_of_nameLeavesIn h]

theorem renameIn_of_nameLeavesIn : ∀ {ts : List Tree}, nameLeavesIn ts = [] → renameIn plan ts = ts
  | [], _ => rfl
  | t :: ts, h => by
    obtain ⟨ht, hts⟩ := List.append_eq_nil_iff.1 h
    rw [renameIn, rename_of_nameLeaves ht, renameIn_of_nameLeavesIn hts]
end

theorem isTokenOf_rename (kind : Kind) (t : Tree) : (t.rename plan).isTokenOf kind = t.isTokenOf kind := by
  cases t <;> rfl

theorem rename_of_isTokenOf {kind : Kind} (hk : kind.namesVariable = false) {t : Tree} (h : t.isTokenOf kind) :
    t.rename plan = t := by
  cases t with
  | leaf info text =>
    have hkind : info.kind = kind := of_decide_eq_true h
    exact rename_of_nameLeaves (by rw [nameLeaves, hkind, hk]; rfl)
  | node info children => cases h

theorem firstNamed?_rename (t : Tree) : (t.rename plan).firstNamed? = t.firstNamed?.map (rename plan) := by
  rw [firstNamed?, firstNamed?, children_rename, List.find?_map]
  simp only [Function.comp_def, kind_rename]

theorem hasToken_rename (t : Tree) (terminal : Terminal) : (t.rename plan).hasToken terminal = t.hasToken terminal := by
  rw [hasToken, hasToken, children_rename, List.any_map]
  simp only [Function.comp_def, kind_rename]

theorem isGenerator_rename (t : Tree) : (t.rename plan).isGenerator = t.isGenerator := by
  rw [isGenerator, isGenerator, kind_rename, hasToken_rename]

theorem isCallLike_rename (t : Tree) : (t.rename plan).isCallLike = t.isCallLike := by
  rw [isCallLike, isCallLike, firstNamed?_rename]
  cases t.firstNamed? with
  | none => rfl
  | some c => simp only [Option.map_some, Option.all_some, kind_rename]

/-- Whether a part of a node is of some kind. -/
theorem any_part?_rename (t : Tree) (field : Field) (p : Kind → Bool) :
    ((t.rename plan).part? field).any (p ·.kind) = (t.part? field).any (p ·.kind) := by
  rw [part?_rename]
  cases t.part? field with
  | none => rfl
  | some c => simp only [Option.map_some, Option.any_some, kind_rename]

theorem deletesName_rename (t : Tree) : (t.rename plan).deletesName = t.deletesName := by
  rw [deletesName, deletesName, any_part?_rename t .operator (· = .token .kwDelete),
    any_part?_rename t .argument (· = .identifier)]

end Rename

/-! ## What is read of a tidy tree -/

section Tidy

variable {plan : Plan} {t : Tree}

theorem Tidy.child (h : t.Tidy) : ∀ c ∈ t.children, c.Tidy := by
  cases h with
  | leaf info text => exact nofun
  | node _ _ _ _ below => exact below

theorem Tidy.isTokenOf_name (h : t.Tidy) (hk : t.kind.isNamedDeclaration) :
    ∀ c ∈ t.children, c.info.field = some .name → c.isTokenOf .identifier := by
  cases h with
  | leaf info text => exact nofun
  | node name _ _ _ _ => exact name hk

theorem Tidy.isTokenOf_name_rename (h : t.Tidy) (hk : (t.rename plan).kind.isNamedDeclaration) :
    ∀ c ∈ (t.rename plan).children, c.info.field = some .name → c.isTokenOf .identifier := by
  intro c hc hf
  rw [kind_rename] at hk
  rw [children_rename] at hc
  obtain ⟨d, hd, rfl⟩ := List.mem_map.1 hc
  rw [info_rename] at hf
  rw [isTokenOf_rename]
  exact h.isTokenOf_name hk d hd hf

theorem Tidy.not_isFunction_of_case (h : t.Tidy) (hk : t.kind = .switchBody) :
    ∀ c ∈ t.children, c.kind.isFunction = false := by
  cases h with
  | leaf info text => exact nofun
  | node _ _ _ switch _ => exact switch hk

/-- A string stays as it is. -/
theorem Tidy.rename_string (h : t.Tidy) (hk : t.kind = .string) : t.rename plan = t := by
  refine rename_of_nameLeaves ?_
  cases h with
  | leaf info text => rw [nameLeaves, show info.kind = .string from hk]; rfl
  | @node info children _ _ string _ _ =>
    rw [nameLeaves, nameLeavesIn_eq_flatMap, List.flatMap_eq_nil_iff]
    exact string hk

theorem Tidy.isTokenOf_label (h : t.Tidy) :
    ∀ c ∈ t.children, c.info.field = some .label → c.isTokenOf .statementIdentifier := by
  cases h with
  | leaf info text => exact nofun
  | node _ label _ _ _ => exact label

/-- Labels stay as they are. -/
theorem Tidy.labelText?_rename (h : t.Tidy) : (t.rename plan).labelText? = t.labelText? := by
  rw [labelText?, labelText?, part?_rename]
  cases hp : t.part? .label with
  | none => rfl
  | some c =>
    have htoken := h.isTokenOf_label c (mem_children_of_part? hp) (field_of_part? hp)
    rw [Option.map_some, rename_of_isTokenOf rfl htoken]

/-- Directives stay as they are. -/
theorem areStrict_rename {ts : List Tree} (h : ∀ t ∈ ts, t.Tidy) : areStrict (ts.map (rename plan)) = areStrict ts := by
  induction ts with
  | nil => rfl
  | cons t ts ih =>
    have ih := ih fun u hu => h u (List.mem_cons_of_mem t hu)
    rw [List.map_cons, areStrict.eq_def, areStrict.eq_def (t :: ts)]
    simp only [kind_rename, ih, firstNamed?_rename]
    split
    · rfl
    · rfl
    · rfl
    · cases hl : t.firstNamed? with
      | none => rfl
      | some literal =>
        have hliteral := (h t List.mem_cons_self).child literal (List.mem_of_find?_eq_some hl)
        simp only [Option.map_some, kind_rename]
        split
        next hk => rw [hliteral.rename_string hk]
        next => rfl
    · rfl

theorem Tidy.functionBlock_areStrict_rename (h : t.Tidy) :
    (t.rename plan).functionBlock?.any (areStrict ·.children) = t.functionBlock?.any (areStrict ·.children) := by
  rw [functionBlock?_rename]
  cases hb : t.functionBlock? with
  | none => rfl
  | some block =>
    have hblock : block.Tidy := h.child block (mem_children_of_functionBlock? hb)
    simp only [Option.map_some, Option.any_some, children_rename, areStrict_rename hblock.child]

/-- The surroundings that a node makes for its children do not depend on names of variables. -/
theorem Tidy.contextBelow_rename (h : t.Tidy) (c : Context) : contextBelow c (t.rename plan) = contextBelow c t := by
  rw [contextBelow, contextBelow, kind_rename, h.functionBlock_areStrict_rename, hasToken_rename, isGenerator_rename,
    h.labelText?_rename, any_part?_rename t .body (·.isLoop)]

section Names

variable (h : t.kind.isNamedDeclaration → ∀ c ∈ t.children, c.info.field = some .name → c.isTokenOf .identifier)
include h

/-- The name of a declaration is what its part binds. -/
theorem nameText_eq (hk : t.kind.isNamedDeclaration) : t.nameText = boundNamesAt .name t.children := by
  rw [nameText, boundNamesAt_eq, ← part?]
  cases hp : t.part? .name with
  | none => rfl
  | some c =>
    have htoken := h hk c (mem_children_of_part? hp) (field_of_part? hp)
    cases c with
    | leaf info text =>
      have hkind : info.kind = .identifier := of_decide_eq_true htoken
      simp [boundNames, hkind, Tree.text]
    | node info children => cases htoken

/-- The checker takes the names that a statement declares with `let`, `const` or `class` for lexical. -/
theorem lexicalOf_eq : Scope.lexicalOf t = t.lexicalNames.map (⟨·, false⟩) := by
  rw [Scope.lexicalOf]
  split
  next hk => rw [lexicalNames, hk]
  next hk => rw [nameText_eq h (by rw [hk]; rfl), lexicalNames, hk]
  next hl hc =>
    rw [lexicalNames]
    split
    · contradiction
    · contradiction
    · rfl

/-- It reads the name of a function as the statement gives it. -/
theorem nameText_eq_functionNames (hk : t.kind.isFunctionDeclaration) : t.nameText = t.functionNames := by
  rw [functionNames, if_pos hk, nameText_eq h (by rw [Kind.isNamedDeclaration, hk]; rfl)]

end Names

end Tidy

/-! ## Scopes of renamed trees -/

section Scopes

variable {plan : Plan} {σ : List Char → List Char}

theorem Spells.boundNames_rename {t : Tree} (h : t.Spells id plan σ) :
    (t.rename plan).boundNames = t.boundNames.map σ := by
  simpa only [List.map_id] using Tree.boundNames_rename h

theorem parameterNames_rename {parameters : Option Tree}
    (h : ∀ p ∈ parameters, (p.rename plan).boundNames = p.boundNames.map σ) :
    ((parameters.map (rename plan)).map (·.boundNames)).getD []
      = ((parameters.map (·.boundNames)).getD []).map σ := by
  cases parameters with
  | none => rfl
  | some p => exact h p rfl

/-- What a statement declares has its names changed in one way. -/
structure DeclaresAs (plan : Plan) (σ : List Char → List Char) (t : Tree) : Prop where
  lexical : Scope.lexicalOf (t.rename plan) = (Scope.lexicalOf t).map (Binding.map σ)
  function : t.kind.isFunctionDeclaration → (t.rename plan).nameText = t.nameText.map σ
  vars : (t.rename plan).varNames = t.varNames.map σ

section Statement

variable {t : Tree}

/-- It is enough that the names of lexical declarations, of functions and of `var` change in this way. -/
theorem Tidy.declaresAs (ht : t.Tidy) (hlexical : (t.rename plan).lexicalNames = t.lexicalNames.map σ)
    (hfunction : (t.rename plan).functionNames = t.functionNames.map σ)
    (hvars : (t.rename plan).varNames = t.varNames.map σ) : t.DeclaresAs plan σ where
  lexical := by
    rw [lexicalOf_eq ht.isTokenOf_name, lexicalOf_eq ht.isTokenOf_name_rename, hlexical, List.map_map, List.map_map]
    rfl
  function hk := by
    rw [nameText_eq_functionNames ht.isTokenOf_name hk,
      nameText_eq_functionNames ht.isTokenOf_name_rename (by rwa [kind_rename]), hfunction]
  vars := hvars

theorem Spells.declaresAs (h : t.Spells id plan σ) (ht : t.Tidy) : t.DeclaresAs plan σ := by
  refine ht.declaresAs ?_ ?_ ?_
  · simpa only [List.map_id] using lexicalNames_rename h
  · simpa only [List.map_id] using functionNames_rename h
  · simpa only [List.map_id] using varNames_rename h

theorem DeclaresAs.inBlock (h : t.DeclaresAs plan σ) :
    Scope.lexicalInBlock (t.rename plan) = (Scope.lexicalInBlock t).map (Binding.map σ) := by
  rw [Scope.lexicalInBlock, Scope.lexicalInBlock, kind_rename]
  split
  next hk =>
    rw [h.function hk, List.map_map, List.map_map]
    rfl
  next => exact h.lexical

end Statement

section Statements

variable {ts : List Tree} (h : ∀ t ∈ ts, t.DeclaresAs plan σ)
include h

theorem varNamesIn_map_rename : varNamesIn (ts.map (rename plan)) = (varNamesIn ts).map σ := by
  rw [varNamesIn_eq, varNamesIn_eq]
  exact flatMap_map_rename fun t hm => (h t hm).vars

theorem functionNames_map_rename :
    ((ts.map (rename plan)).filter (·.kind.isFunctionDeclaration)).flatMap (·.nameText)
      = ((ts.filter (·.kind.isFunctionDeclaration)).flatMap (·.nameText)).map σ := by
  rw [List.filter_map]
  simp only [Function.comp_def, kind_rename]
  refine flatMap_map_rename fun t hm => ?_
  obtain ⟨hm, hk⟩ := List.mem_filter.1 hm
  exact (h t hm).function hk

theorem ofFunction_rename {parameters : Option Tree}
    (hp : ∀ p ∈ parameters, (p.rename plan).boundNames = p.boundNames.map σ) :
    Scope.ofFunction (parameters.map (rename plan)) (ts.map (rename plan))
      = (Scope.ofFunction parameters ts).map σ := by
  simp only [Scope.ofFunction, Scope.map, List.map_append, parameterNames_rename hp, varNamesIn_map_rename h,
    functionNames_map_rename h, flatMap_map_rename fun t hm => (h t hm).lexical]

theorem ofBlock_rename {parameter : Option Tree}
    (hp : ∀ p ∈ parameter, (p.rename plan).boundNames = p.boundNames.map σ) :
    Scope.ofBlock (parameter.map (rename plan)) (ts.map (rename plan)) = (Scope.ofBlock parameter ts).map σ := by
  simp only [Scope.ofBlock, Scope.map, List.map_append, parameterNames_rename hp, varNamesIn_map_rename h,
    flatMap_map_rename fun t hm => (h t hm).inBlock]

theorem ofCases_rename (hbodies : ∀ t ∈ ts, ∀ s ∈ t.parts .body, s.DeclaresAs plan σ) :
    Scope.ofCases (ts.map (rename plan)) = (Scope.ofCases ts).map σ := by
  have hparts : (ts.map (rename plan)).flatMap (·.parts .body) = (ts.flatMap (·.parts .body)).map (rename plan) :=
    flatMap_map_rename fun t _ => parts_rename plan t .body
  have hlexical : ∀ s ∈ ts.flatMap (·.parts .body),
      Scope.lexicalInBlock (s.rename plan) = (Scope.lexicalInBlock s).map (Binding.map σ) := by
    intro s hs
    obtain ⟨t, hm, hs⟩ := List.mem_flatMap.1 hs
    exact (hbodies t hm s hs).inBlock
  simp only [Scope.ofCases, Scope.map, hparts, flatMap_map_rename hlexical, varNamesIn_map_rename h]

end Statements

end Scopes

end Tree

/-! ## Offences -/

/-- An offence without the name that is declared twice. -/
def SyntaxError.nameless : SyntaxError → SyntaxError
  | redeclared _ => redeclared []
  | e => e

namespace Tree

/-- What a handler catches has its names changed in one way. -/
def Owner.BindsAs (plan : Plan) (σ : List Char → List Char) : Owner → Prop
  | handler parameter => ∀ p ∈ parameter, (p.rename plan).boundNames = p.boundNames.map σ
  | _ => True

/-- What the scope of a node declares has its names changed in one way. -/
structure ScopesAs (plan : Plan) (σ : List Char → List Char) (owner : Owner) (t : Tree) : Prop where
  parameters (hf : t.kind.isFunction) : ∀ p ∈ t.parameters?, (p.rename plan).boundNames = p.boundNames.map σ
  function (hf : t.kind.isFunction) : ∀ block ∈ t.functionBlock?, ∀ s ∈ block.children, s.DeclaresAs plan σ
  block (hk : t.kind = .statementBlock) : ∀ s ∈ t.children, s.DeclaresAs plan σ
  caught (hk : t.kind = .statementBlock) : owner.BindsAs plan σ
  cases (hk : t.kind = .switchBody) : ∀ u ∈ t.children, u.DeclaresAs plan σ
  bodies (hk : t.kind = .switchBody) : ∀ u ∈ t.children, ∀ s ∈ u.parts .body, s.DeclaresAs plan σ

section Offences

variable {plan : Plan} {σ : List Char → List Char}

theorem ownerOf_rename (t c : Tree) : ownerOf (t.rename plan) (c.rename plan) = (ownerOf t c).map (rename plan) := by
  rw [ownerOf, ownerOf, kind_rename, info_rename, part?_rename]
  split
  · rfl
  · split <;> rfl

/-- A scope whose names are changed in one way is the scope with the other names. -/
theorem ScopesAs.ownScope?_rename {owner : Owner} {t : Tree} (h : t.ScopesAs plan σ owner) :
    (t.rename plan).ownScope? (owner.map (rename plan)) = (t.ownScope? owner).map (Scope.map σ) := by
  rw [ownScope?.eq_def, ownScope?.eq_def, kind_rename, children_rename]
  split
  next hf =>
    rw [functionBlock?_rename, parameters?_rename]
    cases hb : t.functionBlock? with
    | none => rfl
    | some block =>
      rw [Option.map_some, Option.map_some, Option.map_some, Option.map_some, children_rename,
        ofFunction_rename (h.function hf block hb) (h.parameters hf)]
  next =>
    split
    next hk =>
      have hcaught := h.caught hk
      cases owner with
      | function => rfl
      | handler parameter => exact congrArg some (ofBlock_rename (h.block hk) hcaught)
      | other =>
        have hnone : ∀ p ∈ (none : Option Tree), (p.rename plan).boundNames = p.boundNames.map σ := by
          intro p hp
          cases hp
        exact congrArg some (ofBlock_rename (h.block hk) hnone)
    next hk => exact congrArg some (ofCases_rename (h.cases hk) (h.bodies hk))
    next => rfl

/-- The rules read a tidy node as they did, if they read its scope so. -/
theorem Tidy.readsAs_rename {see : SyntaxError → SyntaxError} {c : Context} {owner : Owner} {t : Tree} (ht : t.Tidy)
    (hscope : ∀ strict, (((t.rename plan).ownScope? (owner.map (rename plan))).bind (scopeViolation? strict)).map see
      = ((t.ownScope? owner).bind (scopeViolation? strict)).map see) :
    ReadsAs see c owner (owner.map (rename plan)) t (t.rename plan) where
  kind := kind_rename plan t
  start := congrArg Info.start (info_rename plan t)
  label := ht.labelText?_rename
  deletes := deletesName_rename t
  awaits _ := .inr (isCallLike_rename t)
  yields _ := .inr (.inr (isCallLike_rename t))
  scope := hscope

/-- A scope with other names commits the same offence. -/
theorem scopeViolation?_map (hσ : ∀ a b, σ a = σ b → a = b) (strict : Bool) (scope : Scope) :
    (scopeViolation? strict (scope.map σ)).map SyntaxError.nameless
      = (scopeViolation? strict scope).map SyntaxError.nameless := by
  rw [scopeViolation?, scopeViolation?, Scope.clash?_map hσ]
  cases scope.clash? strict <;> rfl

/-- What the scope of a node declares has its names changed as those of the node, or as those of a function. -/
theorem Respells.exists_scopesAs {t : Tree} (h : t.Respells plan σ) (ht : t.Tidy) {owner : Owner}
    (ho : owner.BindsAs plan σ) : ∃ σ', (∀ a b, σ' a = σ' b → a = b) ∧ t.ScopesAs plan σ' owner := by
  by_cases hf : t.kind.isFunction
  · obtain ⟨σ', hσ', hparts⟩ := h.localParts hf
    have hblock (hk : t.kind = .statementBlock) : False := by
      rw [hk] at hf
      cases hf
    have hcases (hk : t.kind = .switchBody) : False := by
      rw [hk] at hf
      cases hf
    refine ⟨σ', hσ', ⟨fun _ p hp => ?_, fun _ block hb s hs => ?_, fun hk => (hblock hk).elim,
      fun hk => (hblock hk).elim, fun hk => (hcases hk).elim, fun hk => (hcases hk).elim⟩⟩
    · have hpart : p ∈ t.localParts := List.mem_append_left _ (by rw [show t.parameters? = some p from hp]; simp)
      exact (hparts p hpart).spells.boundNames_rename
    · obtain ⟨hbody, hk⟩ := Option.filter_eq_some_iff.1 hb
      have hpart : block ∈ t.localParts := List.mem_append_right _ (by rw [hbody]; simp)
      have htidy := (ht.child block (mem_children_of_part? hbody)).child s hs
      exact ((hparts block hpart).spellsIn (by rw [of_decide_eq_true hk]; rfl) s hs).declaresAs htidy
  · have hrespells : ∀ s ∈ t.children, s.Respells plan σ := fun s hs => h.child (by simpa using hf) hs
    have hstatements : ∀ s ∈ t.children, s.DeclaresAs plan σ := fun s hs =>
      (hrespells s hs).spells.declaresAs (ht.child s hs)
    refine ⟨σ, h.injective, ⟨fun hf' => absurd hf' hf, fun hf' => absurd hf' hf, fun _ => hstatements, fun _ => ho,
      fun _ => hstatements, fun hk u hu s hs => ?_⟩⟩
    -- A statement stands two levels below the `switch`; a function in between would have names of its own.
    have hs : s ∈ u.children := (List.mem_filter.1 hs).1
    exact ((hrespells u hu).child (ht.not_isFunction_of_case hk u hu) hs).spells.declaresAs
      ((ht.child u hu).child s hs)

/-- What the children of a node belong to has its names spelled as the children have. -/
theorem Respells.exists_owner {t c : Tree} (h : t.Respells plan σ) (hc : c ∈ t.children) :
    ∃ σ', c.Respells plan σ' ∧ (ownerOf t c).BindsAs plan σ' := by
  by_cases hk : t.kind = .catchClause
  · have hf : t.kind.isFunction = false := by rw [hk]; rfl
    refine ⟨σ, h.child hf hc, ?_⟩
    rw [ownerOf, hf, Bool.false_and, if_neg Bool.false_ne_true, if_pos hk]
    exact fun p hp => (h.spellsIn hf p (mem_children_of_part? hp)).boundNames_rename
  · obtain ⟨σ', hσ'⟩ := h.exists_child hc
    refine ⟨σ', hσ', ?_⟩
    rw [ownerOf, if_neg hk]
    split <;> trivial

/-- The walk reads tidy trees as it did. The parts of a function do not all change their names in one way, so each tree
comes with its own. -/
theorem keepsWalk_rename : KeepsWalk (rename plan) (fun _ => true) SyntaxError.nameless fun _ owner t =>
    t.Tidy ∧ ∃ σ, t.Respells plan σ ∧ owner.BindsAs plan σ where
  reads := by
    rintro c owner t ⟨ht, σ, h, ho⟩
    obtain ⟨σ', hσ', hscope⟩ := h.exists_scopesAs ht ho
    refine ht.readsAs_rename fun strict => ?_
    rw [hscope.ownScope?_rename]
    cases t.ownScope? owner with
    | none => rfl
    | some scope => exact scopeViolation?_map hσ' strict scope
  context h := h.1.contextBelow_rename _
  children _ := by rw [children_rename, List.filter_true]
  owner _ u _ := ownerOf_rename _ u
  leftOut _ _ _ h := by cases h
  below := by
    rintro c owner t ⟨ht, σ, h, -⟩ u hu
    exact ⟨ht.child u hu, h.exists_owner hu⟩

end Offences

/-- A program with the names of its plan commits the offence that it did. -/
theorem programViolation?_rename {plan : Plan} {t : Tree} (h : Keeps plan t) (ht : t.Tidy) (hk : t.kind = .program) :
    (t.rename plan).programViolation?.map SyntaxError.nameless = t.programViolation?.map SyntaxError.nameless := by
  have hrespells : t.Respells plan id := .own h
  have hf : t.kind.isFunction = false := by rw [hk]; rfl
  have hstatements : ∀ s ∈ t.children, s.DeclaresAs plan id := fun s hs =>
    (hrespells.spellsIn hf s hs).declaresAs (ht.child s hs)
  have hnone : ∀ p ∈ (none : Option Tree), (p.rename plan).boundNames = p.boundNames.map id := nofun
  have hscope : Scope.ofFunction none (t.children.map (rename plan)) = (Scope.ofFunction none t.children).map id :=
    ofFunction_rename hstatements hnone
  refine keepsWalk_rename.programViolation?_map ?_ ?_ ?_ nofun fun u hu =>
    ⟨ht.child u hu, id, hrespells.child hf hu, trivial⟩
  · rw [children_rename, List.filter_true]
  · rw [children_rename, hscope, scopeViolation?_map hrespells.injective]
  · rw [children_rename, areStrict_rename ht.child]

/-- The plan of a script without faults in its tree makes no offence and hides none: the tree with the new names commits
one if and only if it did, and declares a name twice if and only if it did. -/
theorem programViolation?_rename_plan {source : List Char} {t : Tree} (h : parse source = some t)
    (hclean : t.info.faulty = false) :
    ((t.rename t.plan).programViolation? = none ↔ t.programViolation? = none)
      ∧ ((∃ n, (t.rename t.plan).programViolation? = some (.redeclared n))
        ↔ ∃ n, t.programViolation? = some (.redeclared n)) := by
  obtain ⟨ht, hk⟩ := tidy_of_parse h hclean
  have hkeeps : Keeps t.plan t := ⟨nodup_nameStarts_of_parse h hclean, fun _ _ => rfl⟩
  have hsame := programViolation?_rename hkeeps ht hk
  have hredeclared (o : Option SyntaxError) :
      (∃ n, o = some (.redeclared n)) ↔ o.map SyntaxError.nameless = some (.redeclared []) := by
    cases o with
    | none => simp
    | some e => cases e <;> simp [SyntaxError.nameless]
  constructor
  · rw [← Option.map_eq_none_iff, hsame, Option.map_eq_none_iff]
  · rw [hredeclared, hredeclared, hsame]

/-- A parameter and a local that share a name do so under its new name. -/
theorem programViolation?_rename_plan_parameter : ∃ t,
    parse "function f(value) { let value = 1 }".toList = some t ∧ t.info.faulty = false ∧ t.plan.length = 2
      ∧ t.programViolation? = some (.redeclared "value".toList)
      ∧ ∃ n, (t.rename t.plan).programViolation? = some (.redeclared n) := by
  have h : (parse "function f(value) { let value = 1 }".toList).any (fun t =>
      !t.info.faulty && t.plan.length = 2 && t.programViolation? = some (.redeclared "value".toList)) = true := by
    decide +kernel
  obtain ⟨t, ht, hall⟩ := (Option.any_eq_true _ _).1 h
  simp only [Bool.and_eq_true, Bool.not_eq_true', decide_eq_true_eq] at hall
  obtain ⟨⟨hclean, hplan⟩, hviolation⟩ := hall
  exact ⟨t, ht, hclean, hplan, hviolation, (programViolation?_rename_plan ht hclean).2.2 ⟨_, hviolation⟩⟩

end Tree
end Bookmarklet.Script
