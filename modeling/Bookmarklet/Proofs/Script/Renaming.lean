import Mathlib.Data.List.Basic
import Bookmarklet.Proofs.Script.Binding
import Bookmarklet.Proofs.Script.Scope

/-!
# Trees with other names

`Tree.rename` puts the names of a plan into a tree. Where a tree spells each name in one way (`Tree.Spells`), what its
scopes declare changes in that way (`Tree.scopeNames?_rename`, `Tree.bodyFrames_rename`).
-/

namespace Bookmarklet.Script

/-- What a leaf is spelled like under a plan. -/
def Plan.respell (plan : Plan) (info : Info) (text : List Char) : List Char :=
  if info.kind = .identifier then (plan.lookup info.start.byte).getD text else text

/-- A scope with other names. -/
def Frame.map (σ : List Char → List Char) (f : Frame) : Frame := { f with names := f.names.map σ }

namespace Tree

mutual
/-- A tree with the names of a plan. -/
def rename (plan : Plan) : Tree → Tree
  | leaf info text => leaf info (plan.respell info text)
  | node info children => node info (renameIn plan children)

/-- Trees with the names of a plan. -/
def renameIn (plan : Plan) : List Tree → List Tree
  | [] => []
  | t :: ts => t.rename plan :: renameIn plan ts
end

section Rename

variable (plan : Plan)

theorem renameIn_eq_map (ts : List Tree) : renameIn plan ts = ts.map (rename plan) := by
  induction ts with
  | nil => rfl
  | cons t ts ih => rw [renameIn, ih, List.map_cons]

@[simp] theorem info_rename (t : Tree) : (t.rename plan).info = t.info := by
  cases t <;> rfl

@[simp] theorem kind_rename (t : Tree) : (t.rename plan).kind = t.kind := congrArg Info.kind (info_rename plan t)

@[simp] theorem children_rename (t : Tree) : (t.rename plan).children = t.children.map (rename plan) := by
  cases t with
  | leaf info text => rfl
  | node info children => exact renameIn_eq_map plan children

@[simp] theorem part?_rename (t : Tree) (field : Field) :
    (t.rename plan).part? field = (t.part? field).map (rename plan) := by
  simp only [part?, children_rename, List.find?_map]
  congr 2
  funext c
  simp

@[simp] theorem parts_rename (t : Tree) (field : Field) :
    (t.rename plan).parts field = (t.parts field).map (rename plan) := by
  simp only [parts, children_rename, List.filter_map]
  congr 2
  funext c
  simp

@[simp] theorem partIndex?_rename (t : Tree) (field : Field) :
    (t.rename plan).partIndex? field = t.partIndex? field := by
  simp only [partIndex?, children_rename, List.findIdx?_map]
  congr 1
  funext c
  simp

@[simp] theorem parametersIndex?_rename (t : Tree) : (t.rename plan).parametersIndex? = t.parametersIndex? := by
  simp [parametersIndex?]

@[simp] theorem isBodyAt_rename (t : Tree) : (t.rename plan).isBodyAt = t.isBodyAt := by
  funext i
  simp [isBodyAt]

@[simp] theorem parameters?_rename (t : Tree) : (t.rename plan).parameters? = t.parameters?.map (rename plan) := by
  simp only [parameters?, part?_rename]
  cases t.part? .parameters <;> rfl

@[simp] theorem functionBlock?_rename (t : Tree) :
    (t.rename plan).functionBlock? = t.functionBlock?.map (rename plan) := by
  simp only [functionBlock?, part?_rename]
  cases t.part? .body with
  | none => rfl
  | some b => by_cases h : b.kind = .statementBlock <;> simp [Option.filter, h]

mutual
theorem hasExpressions_rename : ∀ t : Tree, (t.rename plan).hasExpressions = t.hasExpressions
  | leaf _ _ => rfl
  | node _ children => by rw [rename, hasExpressions, hasExpressions, hasExpressionsIn_rename children]

theorem hasExpressionsIn_rename : ∀ ts : List Tree, hasExpressionsIn (renameIn plan ts) = hasExpressionsIn ts
  | [] => rfl
  | t :: ts => by
    rw [renameIn, hasExpressionsIn, hasExpressionsIn, hasExpressions_rename t, hasExpressionsIn_rename ts]
end

end Rename

/-! ## Trees that spell names in one way -/

mutual
/-- Under a plan, every name outside nested functions reads as `σ` has it; so do the names of these functions. Names
may be read as they stand, or without their escapes. -/
def Spells (read : List Char → List Char) (plan : Plan) (σ : List Char → List Char) : Tree → Prop
  | leaf info text => info.kind.namesVariable → read (plan.respell info text) = σ (read text)
  | node info children =>
    if info.kind.isFunction then SpellsAt read plan σ .name children else SpellsIn read plan σ children

/-- The first of some trees to play a part spells its names so. -/
def SpellsAt (read : List Char → List Char) (plan : Plan) (σ : List Char → List Char) (field : Field) :
    List Tree → Prop
  | [] => True
  | t :: ts => if t.info.field = some field then t.Spells read plan σ else SpellsAt read plan σ field ts

/-- Some trees spell their names so. -/
def SpellsIn (read : List Char → List Char) (plan : Plan) (σ : List Char → List Char) : List Tree → Prop
  | [] => True
  | t :: ts => t.Spells read plan σ ∧ SpellsIn read plan σ ts
end

section Spells

variable {read : List Char → List Char} {plan : Plan} {σ : List Char → List Char}

theorem SpellsIn.mem : ∀ {ts : List Tree}, SpellsIn read plan σ ts → ∀ t ∈ ts, t.Spells read plan σ
  | _ :: _, h, _, .head _ => h.1
  | _ :: _, h, t, .tail _ hm => SpellsIn.mem h.2 t hm

theorem spellsIn_of_forall {ts : List Tree} (h : ∀ t ∈ ts, t.Spells read plan σ) : SpellsIn read plan σ ts := by
  induction ts with
  | nil => trivial
  | cons t ts ih => exact ⟨h t List.mem_cons_self, ih fun u hu => h u (List.mem_cons_of_mem t hu)⟩

theorem SpellsIn.at (field : Field) {ts : List Tree} (h : SpellsIn read plan σ ts) : SpellsAt read plan σ field ts := by
  induction ts with
  | nil => trivial
  | cons t ts ih =>
    rw [SpellsAt]
    split
    · exact h.1
    · exact ih h.2

/-- The parts of a node other than a function spell their names as the node does. -/
theorem Spells.children {t : Tree} (h : t.Spells read plan σ) (hf : t.kind.isFunction = false) :
    SpellsIn read plan σ t.children := by
  cases t with
  | leaf info text => trivial
  | node info children =>
    have hf : info.kind.isFunction = false := hf
    rw [Spells, hf] at h
    exact h

/-- So does the name of any node. -/
theorem Spells.name {t : Tree} (h : t.Spells read plan σ) : SpellsAt read plan σ .name t.children := by
  cases t with
  | leaf info text => trivial
  | node info children =>
    rw [Spells] at h
    split at h
    · exact h
    · exact h.at .name

/-! ## What patterns bind -/

mutual
theorem boundNames_rename : ∀ {t : Tree}, t.Spells read plan σ →
    (t.rename plan).boundNames.map read = (t.boundNames.map read).map σ
  | leaf info text, h => by
    rw [rename, boundNames, boundNames]
    rw [Spells] at h
    split
    next hk => simp [h (by simp [Kind.namesVariable, hk])]
    next hk => simp [h (by simp [Kind.namesVariable, hk])]
    next => rfl
  | node info children, h => by
    rw [rename]
    rcases boundNames_node info with ⟨hk, hnames⟩ | ⟨hk, hnames⟩ | ⟨hk, hnames⟩ | hnames
    · have hc : SpellsIn read plan σ children := h.children (congrArg Kind.isFunction hk)
      rw [hnames, hnames, boundNamesAt_rename .value (hc.at .value)]
    · have hc : SpellsIn read plan σ children :=
        h.children (by rcases hk with hk | hk <;> exact congrArg Kind.isFunction hk)
      rw [hnames, hnames, boundNamesAt_rename .left (hc.at .left)]
    · have hc : SpellsIn read plan σ children :=
        h.children (by rcases hk with hk | hk | hk | hk <;> exact congrArg Kind.isFunction hk)
      rw [hnames, hnames, boundNamesIn_rename hc]
    · rw [hnames, hnames]
      rfl

theorem boundNamesAt_rename (field : Field) : ∀ {ts : List Tree}, SpellsAt read plan σ field ts →
    (boundNamesAt field (renameIn plan ts)).map read = ((boundNamesAt field ts).map read).map σ
  | [], _ => rfl
  | t :: ts, h => by
    rw [SpellsAt] at h
    rw [renameIn, boundNamesAt, boundNamesAt, info_rename]
    split at h
    next hf => rw [if_pos hf, if_pos hf, boundNames_rename h]
    next hf => rw [if_neg hf, if_neg hf, boundNamesAt_rename field h]

theorem boundNamesIn_rename : ∀ {ts : List Tree}, SpellsIn read plan σ ts →
    (boundNamesIn (renameIn plan ts)).map read = ((boundNamesIn ts).map read).map σ
  | [], _ => rfl
  | t :: ts, h => by
    rw [renameIn, boundNamesIn, boundNamesIn, List.map_append, List.map_append, List.map_append, boundNames_rename h.1,
      boundNamesIn_rename h.2]
end

/-- What some trees tell together, if for each of them it changes as `g` has it. -/
theorem flatMap_map_rename {α : Type} {f : Tree → List α} {g : α → α} {ts : List Tree}
    (h : ∀ t ∈ ts, f (t.rename plan) = (f t).map g) : (ts.map (rename plan)).flatMap f = (ts.flatMap f).map g := by
  rw [List.flatMap_map, List.map_flatMap]
  exact List.flatMap_congr h

/-- The names that some trees bind together, if each of them changes as `σ` has it. -/
theorem flatMap_rename {names : Tree → List (List Char)} {ts : List Tree}
    (h : ∀ t ∈ ts, (names (t.rename plan)).map read = ((names t).map read).map σ) :
    ((ts.map (rename plan)).flatMap names).map read = ((ts.flatMap names).map read).map σ := by
  rw [List.map_flatMap, List.map_flatMap]
  exact flatMap_map_rename h

/-! ## What statements declare -/

theorem boundName_rename {t : Tree} (h : t.Spells read plan σ) :
    (boundNamesAt .name (t.rename plan).children).map read
      = ((boundNamesAt .name t.children).map read).map σ := by
  rw [children_rename, ← renameIn_eq_map, boundNamesAt_rename .name h.name]

theorem declaredNames_rename {t : Tree} (h : t.Spells read plan σ) (hf : t.kind.isFunction = false) :
    ((t.rename plan).declaredNames).map read = (t.declaredNames.map read).map σ := by
  rw [declaredNames, children_rename]
  exact flatMap_rename fun c hc => boundName_rename ((h.children hf).mem c hc)

theorem lexicalNames_rename {t : Tree} (h : t.Spells read plan σ) :
    ((t.rename plan).lexicalNames).map read = (t.lexicalNames.map read).map σ := by
  rw [lexicalNames, lexicalNames, kind_rename]
  split
  next hk => exact declaredNames_rename h (by rw [hk]; rfl)
  next => exact boundName_rename h
  next => rfl

theorem functionNames_rename {t : Tree} (h : t.Spells read plan σ) :
    ((t.rename plan).functionNames).map read = (t.functionNames.map read).map σ := by
  rw [functionNames, functionNames, kind_rename]
  split
  · exact boundName_rename h
  · rfl

theorem ownVarNames_rename {t : Tree} (h : t.Spells read plan σ) :
    ((t.rename plan).ownVarNames).map read = (t.ownVarNames.map read).map σ := by
  rw [ownVarNames, ownVarNames, kind_rename]
  split
  next hk => exact declaredNames_rename h (by rw [hk]; rfl)
  next hk =>
    have hleft := boundNamesAt_rename .left (SpellsIn.at .left (h.children (by rw [hk]; rfl)))
    rw [part?_rename, children_rename, ← renameIn_eq_map]
    cases t.part? .kind with
    | none => rfl
    | some c =>
      simp only [Option.map_some, Option.any_some, kind_rename]
      split
      · exact hleft
      · rfl
  next => rfl

mutual
theorem varNames_rename : ∀ {t : Tree}, t.Spells read plan σ →
    ((t.rename plan).varNames).map read = (t.varNames.map read).map σ
  | leaf info text, _ => rfl
  | node info children, h => by
    have hown := ownVarNames_rename h
    rw [rename] at hown ⊢
    rw [varNames, varNames]
    split
    next => rfl
    next hf =>
      simp only [Bool.or_eq_true, not_or, Bool.not_eq_true] at hf
      have hc : SpellsIn read plan σ children := h.children hf.1
      rw [List.map_append, List.map_append, List.map_append, hown, varNamesIn_rename hc]

theorem varNamesIn_rename : ∀ {ts : List Tree}, SpellsIn read plan σ ts →
    (varNamesIn (renameIn plan ts)).map read = ((varNamesIn ts).map read).map σ
  | [], _ => rfl
  | t :: ts, h => by
    rw [renameIn, varNamesIn, varNamesIn, List.map_append, List.map_append, List.map_append, varNames_rename h.1,
      varNamesIn_rename h.2]
end

theorem blockNames_rename {ts : List Tree} (h : SpellsIn read plan σ ts) :
    (blockNames (ts.map (rename plan))).map read = ((blockNames ts).map read).map σ :=
  flatMap_rename fun t ht => by
    rw [List.map_append, List.map_append, List.map_append, lexicalNames_rename (h.mem t ht),
      functionNames_rename (h.mem t ht)]

/-! ## What scopes declare -/

theorem caseStatements_rename (t : Tree) : (t.rename plan).caseStatements = t.caseStatements.map (rename plan) := by
  simp only [caseStatements, children_rename, List.filter_map, List.flatMap_map, List.map_flatMap, parts_rename]
  congr 2
  funext c
  simp

theorem caseStatements_spells {t : Tree} (h : SpellsIn read plan σ t.children) :
    SpellsIn read plan σ t.caseStatements := by
  refine spellsIn_of_forall fun s hs => ?_
  obtain ⟨c, hc, hs⟩ := List.mem_flatMap.1 hs
  obtain ⟨hc, hk⟩ := List.mem_filter.1 hc
  have hf : c.kind.isFunction = false := by
    simp only [Bool.or_eq_true, decide_eq_true_eq] at hk
    rcases hk with hk | hk <;> rw [hk] <;> rfl
  exact ((h.mem c hc).children hf).mem s (List.mem_filter.1 hs).1

theorem loopNames_rename {t : Tree} (h : SpellsIn read plan σ t.children) :
    ((t.rename plan).loopNames).map read = (t.loopNames.map read).map σ := by
  have hleft := boundNamesAt_rename .left (h.at .left)
  rw [loopNames, loopNames, part?_rename, children_rename, ← renameIn_eq_map]
  cases t.part? .kind with
  | none => rfl
  | some c =>
    simp only [Option.map_some, Option.any_some, kind_rename, Option.isSome_some, if_true]
    split
    · rfl
    · exact hleft

theorem part_spells {t c : Tree} {field : Field} (h : SpellsIn read plan σ t.children) (hc : t.part? field = some c) :
    c.Spells read plan σ :=
  h.mem c (mem_children_of_part? hc)

/-- The names of a part of a node change as `σ` has it. -/
theorem part_rename {names : Tree → List (List Char)} {t : Tree} (field : Field) (h : SpellsIn read plan σ t.children)
    (hn : ∀ c : Tree, c.Spells read plan σ → (names (c.rename plan)).map read = ((names c).map read).map σ) :
    ((((t.rename plan).part? field).map names).getD []).map read
      = ((((t.part? field).map names).getD []).map read).map σ := by
  rw [part?_rename]
  cases hc : t.part? field with
  | none => rfl
  | some c => exact hn c (part_spells h hc)

/-- What a node other than a function declares for its children changes as the names do. -/
theorem scopeNames?_rename {t : Tree} (h : t.Spells read plan σ) (hf : t.kind.isFunction = false) (isBody : Bool) :
    ((t.rename plan).scopeNames? isBody).map (·.map read)
      = (t.scopeNames? isBody).map fun names => (names.map read).map σ := by
  have hc := h.children hf
  have hblock := blockNames_rename hc
  have hvar := varNamesIn_rename hc
  rw [renameIn_eq_map] at hvar
  have hcases := blockNames_rename (caseStatements_spells hc)
  rw [scopeNames?, scopeNames?, kind_rename, children_rename]
  split
  next => simp only [Option.map_some, programNames, List.map_append, hblock, hvar]
  next =>
    split
    · rfl
    · rw [Option.map_some, Option.map_some, hblock]
  next => rw [Option.map_some, Option.map_some, caseStatements_rename, hcases]
  next => rw [Option.map_some, Option.map_some, part_rename .initializer hc fun c => lexicalNames_rename]
  next => rw [Option.map_some, Option.map_some, loopNames_rename hc]
  next => rw [Option.map_some, Option.map_some, part_rename .parameter hc fun c => boundNames_rename]
  next => rw [Option.map_some, Option.map_some, hvar]
  next => rw [Option.map_some, Option.map_some, ← children_rename, boundName_rename h]
  next => rw [Option.map_some, Option.map_some, ← children_rename, boundName_rename h]
  next => rfl

theorem frame_rename (path : List Nat) (role : Role) {names names' : List (List Char)}
    (h : names'.map unescape = (names.map unescape).map σ) :
    frame path role names' = (frame path role names).map σ := by
  rw [frame, h]
  rfl

/-- The scope that a node makes for its children has its names changed. -/
theorem scopeFrame_rename {t : Tree} (h : t.Spells unescape plan σ) (hf : t.kind.isFunction = false) (isBody : Bool)
    (path : List Nat) :
    (((t.rename plan).scopeNames? isBody).map (frame path .inner)).toList
      = (((t.scopeNames? isBody).map (frame path .inner)).toList).map (Frame.map σ) := by
  have hnames := scopeNames?_rename h hf isBody
  cases ht : t.scopeNames? isBody with
  | none =>
    rw [ht, Option.map_none, Option.map_eq_none_iff] at hnames
    rw [hnames]
    rfl
  | some names =>
    rw [ht, Option.map_some] at hnames
    obtain ⟨names', ht', hnames⟩ := Option.map_eq_some_iff.1 hnames
    rw [ht']
    exact congrArg (fun f => [f]) (frame_rename path .inner hnames)

/-! ## What functions declare -/

theorem nameFrames_rename (path : List Nat) {t : Tree} (h : t.Spells unescape plan σ) :
    nameFrames path (t.rename plan) = (nameFrames path t).map (Frame.map σ) := by
  have hname := frame_rename path .name (boundName_rename h)
  rw [nameFrames, nameFrames, kind_rename]
  split
  · exact congrArg (fun f => [f]) hname
  · exact congrArg (fun f => [f]) hname
  · rfl

section Function

variable {t : Tree} (hp : ∀ c, t.parameters? = some c → c.Spells unescape plan σ)
  (ha : σ "arguments".toList = "arguments".toList)
include hp ha

theorem parameterFrame_rename (path : List Nat) :
    parameterFrame path (t.rename plan) = (parameterFrame path t).map σ := by
  refine frame_rename path .parameters ?_
  have harguments : unescape "arguments".toList = "arguments".toList := unescape_of_plain (by decide)
  have hbound : (((t.parameters?.map (rename plan)).map boundNames).getD []).map unescape
      = (((t.parameters?.map boundNames).getD []).map unescape).map σ := by
    cases hc : t.parameters? with
    | none => rfl
    | some c => exact boundNames_rename (hp c hc)
  rw [parameterNames, parameterNames, kind_rename, parameters?_rename, List.map_append, List.map_append,
    List.map_append, hbound]
  split
  · rfl
  · rw [List.map_singleton, harguments, List.map_singleton, ha]

theorem bodyFrames_rename (path : List Nat) (hb : ∀ c, t.part? .body = some c → c.Spells unescape plan σ) :
    bodyFrames path (t.rename plan) = (bodyFrames path t).map (Frame.map σ) := by
  have hstatements : (t.rename plan).bodyStatements = t.bodyStatements.map (rename plan) := by
    rw [bodyStatements, bodyStatements, functionBlock?_rename]
    cases t.functionBlock? with
    | none => rfl
    | some b => exact children_rename plan b
  have hspells : SpellsIn unescape plan σ t.bodyStatements := by
    rw [bodyStatements, functionBlock?]
    cases hc : t.part? .body with
    | none => trivial
    | some c =>
      by_cases hk : c.kind = .statementBlock
      · simp only [Option.filter, hk, decide_true, if_true, Option.map_some, Option.getD_some]
        exact (hb c hc).children (by rw [hk]; rfl)
      · simp only [Option.filter, hk, decide_false, Bool.false_eq_true, if_false, Option.map_none, Option.getD_none]
        trivial
  have hlexical := frame_rename path .lexical (flatMap_rename fun s hs => lexicalNames_rename (hspells.mem s hs))
  have hvariables : ((t.bodyStatements.map (rename plan)).flatMap functionNames
        ++ varNamesIn (t.bodyStatements.map (rename plan))).map unescape
      = ((t.bodyStatements.flatMap functionNames ++ varNamesIn t.bodyStatements).map unescape).map σ := by
    rw [List.map_append, List.map_append, List.map_append, ← renameIn_eq_map, varNamesIn_rename hspells,
      renameIn_eq_map, flatMap_rename fun s hs => functionNames_rename (hspells.mem s hs)]
  have hexpressions : (t.rename plan).parameters?.any (·.hasExpressions) = t.parameters?.any (·.hasExpressions) := by
    rw [parameters?_rename]
    cases t.parameters? with
    | none => rfl
    | some c => exact hasExpressions_rename plan c
  rw [bodyFrames, bodyFrames, hstatements, hexpressions, parameterFrame_rename hp ha, hlexical,
    frame_rename path .hoisted hvariables]
  split <;> rfl

end Function

end Spells

end Tree
end Bookmarklet.Script
