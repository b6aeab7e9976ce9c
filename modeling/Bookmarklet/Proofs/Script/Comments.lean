import Bookmarklet.Proofs.Script.Acceptance
import Bookmarklet.Proofs.Script.CommentPlaces
import Bookmarklet.Proofs.Script.RenamedViolations
import Bookmarklet.Proofs.Script.Suspension

/-!
# Comments and early errors

A script without faults commits the offence that it commits without comments
(`Tree.programViolation?_withoutComments`): comments play no part in a node and declare nothing, so what the checker
reads of the node is the same without them.

Two readings go by the order of the nodes instead. The operand of an `await` or `yield` is the first node behind it,
even if that is a comment, and the directives end at the first node that is none, for which an HTML comment counts. The
theorem asks that these come to the same without comments (`Tree.ReadsThrough`), as then the walk goes the same way
(`Tree.ReadsThrough.keepsWalk`). Where they do not, it fails in both directions
(`Tree.not_forall_programViolation?_withoutComments`).
-/

namespace Bookmarklet.Script.Tree

/-! ## Trees without comments -/

mutual
/-- A tree without the comments in it. -/
def withoutComments : Tree → Tree
  | leaf info text => leaf info text
  | node info children => node info (withoutCommentsIn children)

/-- Some trees without the comments among them and in them. -/
def withoutCommentsIn : List Tree → List Tree
  | [] => []
  | t :: ts => if t.kind.isComment then withoutCommentsIn ts else t.withoutComments :: withoutCommentsIn ts
end

@[simp] theorem info_withoutComments (t : Tree) : t.withoutComments.info = t.info := by
  cases t <;> rfl

@[simp] theorem kind_withoutComments (t : Tree) : t.withoutComments.kind = t.kind :=
  congrArg Info.kind (info_withoutComments t)

@[simp] theorem children_withoutComments (t : Tree) : t.withoutComments.children = withoutCommentsIn t.children := by
  cases t <;> rfl

theorem withoutCommentsIn_eq (ts : List Tree) :
    withoutCommentsIn ts = (ts.filter (!·.kind.isComment)).map withoutComments := by
  induction ts with
  | nil => rfl
  | cons t ts ih =>
    rw [withoutCommentsIn, ih]
    cases hc : t.kind.isComment <;> simp [hc]

/-- A token stays as it is. -/
theorem withoutComments_of_isTokenOf {kind : Kind} {t : Tree} (h : t.isTokenOf kind) : t.withoutComments = t := by
  cases t with
  | leaf info text => rfl
  | node info children => cases h

section Lists

variable {ts : List Tree}

/-- A test that comments fail picks what it did. -/
theorem filter_withoutCommentsIn (test : Info → Bool) (h : ∀ c ∈ ts, c.kind.isComment → test c.info = false) :
    (withoutCommentsIn ts).filter (test ·.info) = (ts.filter (test ·.info)).map withoutComments := by
  rw [withoutCommentsIn_eq, List.filter_map, List.filter_filter]
  refine congrArg (List.map withoutComments) (List.filter_congr fun c hc => ?_)
  cases hk : c.kind.isComment with
  | true => simp [h c hc hk]
  | false => simp

theorem find?_withoutCommentsIn (test : Info → Bool) (h : ∀ c ∈ ts, c.kind.isComment → test c.info = false) :
    (withoutCommentsIn ts).find? (test ·.info) = (ts.find? (test ·.info)).map withoutComments := by
  rw [← List.head?_filter, filter_withoutCommentsIn test h, List.head?_map, List.head?_filter]

/-- What is collected from trees stays the same, if nothing is from comments. -/
theorem flatMap_withoutCommentsIn {α : Type} {f : Tree → List α} (hc : ∀ c ∈ ts, c.kind.isComment → f c = [])
    (h : ∀ c ∈ ts, f c.withoutComments = f c) : (withoutCommentsIn ts).flatMap f = ts.flatMap f := by
  induction ts with
  | nil => rfl
  | cons t ts ih =>
    have ih := ih (fun c hm => hc c (List.mem_cons_of_mem t hm)) fun c hm => h c (List.mem_cons_of_mem t hm)
    rw [withoutCommentsIn]
    split
    next hk => rw [ih, List.flatMap_cons, hc t List.mem_cons_self hk, List.nil_append]
    next => rw [List.flatMap_cons, List.flatMap_cons, ih, h t List.mem_cons_self]

end Lists

/-! ## Comments declare nothing -/

section Comment

variable {c : Tree} (hc : c.kind.isComment)
include hc

theorem kind_of_isComment : c.kind = .comment ∨ c.kind = .htmlComment ∨ c.kind = .hashBangLine := by
  revert hc
  cases c.kind <;> simp [Kind.isComment]

theorem boundNames_of_isComment : c.boundNames = [] := by
  have hk := kind_of_isComment hc
  cases c with
  | leaf info text => rcases hk with hk | hk | hk <;> simp [boundNames, show info.kind = _ from hk]
  | node info children => rcases hk with hk | hk | hk <;> simp [boundNames, show info.kind = _ from hk]

theorem lexicalOf_of_isComment : Scope.lexicalOf c = [] := by
  rcases kind_of_isComment hc with hk | hk | hk <;> simp [Scope.lexicalOf, hk]

theorem lexicalInBlock_of_isComment : Scope.lexicalInBlock c = [] := by
  rw [Scope.lexicalInBlock, lexicalOf_of_isComment hc]
  rcases kind_of_isComment hc with hk | hk | hk <;> simp [hk, Kind.isFunctionDeclaration]

theorem varNames_of_isComment (hchildren : c.children = []) : c.varNames = [] := by
  have hk := kind_of_isComment hc
  have ho : ¬ (c.kind.isFunction ∨ c.kind.isClass) := by
    rcases hk with hk | hk | hk <;> simp [hk, Kind.isFunction, Kind.isClass]
  have hown : c.ownVarNames = [] := by
    rcases hk with hk | hk | hk <;> simp [ownVarNames, hk]
  rw [varNames_eq ho, hown, hchildren]
  rfl

/-- A comment commits no offence. -/
theorem violation?_of_isComment (hchildren : c.children = []) (context : Context) (owner : Owner) :
    c.violation? context owner = none := by
  rw [violation?_eq, hchildren]
  rcases kind_of_isComment hc with hk | hk | hk <;>
    simp [ownViolation?, hk, Kind.isMarkup, Kind.isFunction, violationIn?]

end Comment

/-- What a handler catches has its comments set apart. -/
def Owner.SetsApart : Owner → Prop
  | handler parameter => ∀ p ∈ parameter, p.SetsApart
  | _ => True

/-! ## What a node says of itself -/

section Node

variable {t : Tree}

theorem hasToken_withoutComments (t : Tree) (terminal : Terminal) :
    t.withoutComments.hasToken terminal = t.hasToken terminal := by
  rw [hasToken, hasToken, children_withoutComments, withoutCommentsIn_eq, List.any_map, List.any_filter]
  congr 1
  funext c
  cases hc : c.kind.isComment with
  | true =>
    rcases kind_of_isComment hc with hk | hk | hk <;> simp [hk]
  | false => simp

theorem isGenerator_withoutComments (t : Tree) : t.withoutComments.isGenerator = t.isGenerator := by
  rw [isGenerator, isGenerator, kind_withoutComments, hasToken_withoutComments]

/-- Without comments the operand is the first node. -/
theorem isCallLike_withoutComments (t : Tree) : t.withoutComments.isCallLike = !t.isOperator := by
  have hoperand : t.withoutComments.firstNamed? = t.operand?.map withoutComments := by
    rw [firstNamed?, operand?, children_withoutComments, withoutCommentsIn_eq, List.find?_map, List.find?_filter]
    simp only [Function.comp_def, kind_withoutComments, Bool.decide_and, Bool.decide_eq_true, Bool.and_comm]
  rw [isCallLike, isOperator, hoperand]
  cases t.operand? <;> simp

variable (h : t.SetsApart)
include h

/-- No comment plays a part. -/
theorem SetsApart.field_comment (field : Field) :
    ∀ c ∈ t.children, c.kind.isComment → (c.info.field == some field) = false := fun c hc hk => by
  rw [(h.comment c hc hk).2]
  rfl

theorem SetsApart.parts_withoutComments (field : Field) :
    t.withoutComments.parts field = (t.parts field).map withoutComments := by
  rw [parts, parts, children_withoutComments]
  exact filter_withoutCommentsIn (·.field == some field) (h.field_comment field)

theorem SetsApart.part?_withoutComments (field : Field) :
    t.withoutComments.part? field = (t.part? field).map withoutComments := by
  rw [part?, part?, children_withoutComments]
  exact find?_withoutCommentsIn (·.field == some field) (h.field_comment field)

/-- Whether a part of a node is of some kind. -/
theorem SetsApart.any_part?_withoutComments (field : Field) (p : Kind → Bool) :
    (t.withoutComments.part? field).any (p ·.kind) = (t.part? field).any (p ·.kind) := by
  rw [h.part?_withoutComments]
  cases t.part? field with
  | none => rfl
  | some c => simp only [Option.map_some, Option.any_some, kind_withoutComments]

theorem SetsApart.deletesName_withoutComments : t.withoutComments.deletesName = t.deletesName := by
  rw [deletesName, deletesName, h.any_part?_withoutComments .operator (· = .token .kwDelete),
    h.any_part?_withoutComments .argument (· = .identifier)]

theorem SetsApart.functionBlock?_withoutComments :
    t.withoutComments.functionBlock? = t.functionBlock?.map withoutComments := by
  rw [functionBlock?, functionBlock?, h.part?_withoutComments]
  cases t.part? .body with
  | none => rfl
  | some b => by_cases hk : b.kind = .statementBlock <;> simp [Option.filter, hk]

theorem SetsApart.parameters?_withoutComments :
    t.withoutComments.parameters? = t.parameters?.map withoutComments := by
  rw [parameters?, parameters?, h.part?_withoutComments, h.part?_withoutComments]
  cases t.part? .parameters <;> rfl

/-- The text of a part that is a token. -/
theorem SetsApart.text_part?_withoutComments {field : Field} {kind : Kind}
    (hk : ∀ c ∈ t.children, c.info.field = some field → c.isTokenOf kind) :
    (t.withoutComments.part? field).map (·.text) = (t.part? field).map (·.text) := by
  rw [h.part?_withoutComments]
  cases hp : t.part? field with
  | none => rfl
  | some c =>
    rw [Option.map_some, withoutComments_of_isTokenOf (hk c (mem_children_of_part? hp) (field_of_part? hp))]

/-! ## What the checker collects -/

theorem SetsApart.boundNamesAt_withoutComments {field : Field}
    (hbelow : ∀ c ∈ t.children, c.withoutComments.boundNames = c.boundNames) :
    boundNamesAt field (withoutCommentsIn t.children) = boundNamesAt field t.children := by
  have hpart := h.part?_withoutComments field
  rw [part?, part?, children_withoutComments] at hpart
  rw [boundNamesAt_eq, boundNamesAt_eq, hpart]
  cases hc : t.children.find? (·.info.field == some field) with
  | none => rfl
  | some c => simp only [Option.map_some, Option.getD_some, hbelow c (List.mem_of_find?_eq_some hc)]

omit h in
/-- A pattern binds the names that it did. -/
theorem SetsApart.boundNames_withoutComments (t : Tree) :
    t.SetsApart → t.withoutComments.boundNames = t.boundNames := by
  induction t using induction_children with
  | step t ih =>
    intro h
    have hbelow : ∀ c ∈ t.children, c.withoutComments.boundNames = c.boundNames := fun c hc => ih c hc (h.child c hc)
    cases t with
    | leaf info text => rfl
    | node info children =>
      rw [withoutComments]
      rcases boundNames_node info with ⟨-, hnames⟩ | ⟨-, hnames⟩ | ⟨-, hnames⟩ | hnames
      · rw [hnames, hnames]
        exact h.boundNamesAt_withoutComments hbelow
      · rw [hnames, hnames]
        exact h.boundNamesAt_withoutComments hbelow
      · rw [hnames, hnames, boundNamesIn_eq, boundNamesIn_eq]
        exact flatMap_withoutCommentsIn (fun _ _ hk => boundNames_of_isComment hk) hbelow
      · rw [hnames, hnames]

theorem SetsApart.boundPart_withoutComments (field : Field) :
    boundNamesAt field (withoutCommentsIn t.children) = boundNamesAt field t.children :=
  h.boundNamesAt_withoutComments fun c hc => boundNames_withoutComments c (h.child c hc)

theorem SetsApart.declaredNames_withoutComments : t.withoutComments.declaredNames = t.declaredNames := by
  rw [declaredNames, declaredNames, children_withoutComments]
  refine flatMap_withoutCommentsIn (fun c hc hk => ?_) fun c hc => ?_
  · rw [(h.comment c hc hk).1]
    rfl
  · rw [children_withoutComments, (h.child c hc).boundPart_withoutComments]

theorem SetsApart.ownVarNames_withoutComments : t.withoutComments.ownVarNames = t.ownVarNames := by
  rw [ownVarNames, ownVarNames, kind_withoutComments, h.declaredNames_withoutComments,
    h.any_part?_withoutComments .kind (· = .token .kwVar), children_withoutComments, h.boundPart_withoutComments]

omit h in
/-- What leaves a tree with `var` is what it was. -/
theorem SetsApart.varNames_withoutComments (t : Tree) : t.SetsApart → t.withoutComments.varNames = t.varNames := by
  induction t using induction_children with
  | step t ih =>
    intro h
    by_cases ho : t.kind.isFunction ∨ t.kind.isClass
    · cases t with
      | leaf info text => rfl
      | node info children =>
        rw [withoutComments, varNames, varNames, if_pos (by rwa [Bool.or_eq_true]), if_pos (by rwa [Bool.or_eq_true])]
    · rw [varNames_eq ho, varNames_eq (by rwa [kind_withoutComments]), h.ownVarNames_withoutComments,
        children_withoutComments, varNamesIn_eq, varNamesIn_eq]
      exact congrArg (t.ownVarNames ++ ·) (flatMap_withoutCommentsIn
        (fun c hc hk => varNames_of_isComment hk (h.comment c hc hk).1) fun c hc => ih c hc (h.child c hc))

theorem SetsApart.varNamesIn_withoutComments : varNamesIn (withoutCommentsIn t.children) = varNamesIn t.children := by
  rw [varNamesIn_eq, varNamesIn_eq]
  exact flatMap_withoutCommentsIn (fun c hc hk => varNames_of_isComment hk (h.comment c hc hk).1)
    fun c hc => varNames_withoutComments c (h.child c hc)

/-! ## Scopes -/

section Statement

variable (ht : t.Tidy)
include ht

theorem SetsApart.nameText_withoutComments (hk : t.kind.isNamedDeclaration) :
    t.withoutComments.nameText = t.nameText := by
  rw [nameText, nameText, h.text_part?_withoutComments (ht.isTokenOf_name hk)]

theorem SetsApart.lexicalOf_withoutComments : Scope.lexicalOf t.withoutComments = Scope.lexicalOf t := by
  rw [Scope.lexicalOf, Scope.lexicalOf, kind_withoutComments, h.declaredNames_withoutComments]
  split
  · rfl
  next hk => rw [h.nameText_withoutComments ht (by rw [hk]; rfl)]
  · rfl

theorem SetsApart.lexicalInBlock_withoutComments :
    Scope.lexicalInBlock t.withoutComments = Scope.lexicalInBlock t := by
  rw [Scope.lexicalInBlock, Scope.lexicalInBlock, kind_withoutComments, h.lexicalOf_withoutComments ht]
  split
  next hk => rw [h.nameText_withoutComments ht (by rw [Kind.isNamedDeclaration, hk]; rfl)]
  next => rfl

end Statement

omit h in
theorem parameterNames_withoutComments {parameters : Option Tree} (hp : ∀ p ∈ parameters, p.SetsApart) :
    ((parameters.map withoutComments).map (·.boundNames)).getD [] = (parameters.map (·.boundNames)).getD [] := by
  cases parameters with
  | none => rfl
  | some p => exact SetsApart.boundNames_withoutComments p (hp p rfl)

section Scopes

variable (ht : t.Tidy)
include ht

theorem SetsApart.ofFunction_withoutComments {parameters : Option Tree} (hp : ∀ p ∈ parameters, p.SetsApart) :
    Scope.ofFunction (parameters.map withoutComments) (withoutCommentsIn t.children)
      = Scope.ofFunction parameters t.children := by
  have hlexical : (withoutCommentsIn t.children).flatMap Scope.lexicalOf = t.children.flatMap Scope.lexicalOf :=
    flatMap_withoutCommentsIn (fun _ _ hk => lexicalOf_of_isComment hk)
      fun c hc => (h.child c hc).lexicalOf_withoutComments (ht.child c hc)
  have hfunctions : ((withoutCommentsIn t.children).filter (·.kind.isFunctionDeclaration)).flatMap (·.nameText)
      = (t.children.filter (·.kind.isFunctionDeclaration)).flatMap (·.nameText) := by
    have hcomments : ∀ c ∈ t.children, c.kind.isComment → c.info.kind.isFunctionDeclaration = false := by
      intro c _ hc
      rcases kind_of_isComment hc with hk | hk | hk <;> exact congrArg Kind.isFunctionDeclaration hk
    rw [show (withoutCommentsIn t.children).filter (·.kind.isFunctionDeclaration)
        = (t.children.filter (·.kind.isFunctionDeclaration)).map withoutComments
      from filter_withoutCommentsIn (·.kind.isFunctionDeclaration) hcomments, List.flatMap_map]
    refine List.flatMap_congr fun c hc => ?_
    obtain ⟨hc, hk⟩ := List.mem_filter.1 hc
    exact (h.child c hc).nameText_withoutComments (ht.child c hc) (by rw [Kind.isNamedDeclaration, hk]; rfl)
  rw [Scope.ofFunction, Scope.ofFunction, hlexical, hfunctions, h.varNamesIn_withoutComments,
    parameterNames_withoutComments hp]

theorem SetsApart.flatMap_lexicalInBlock :
    (withoutCommentsIn t.children).flatMap Scope.lexicalInBlock = t.children.flatMap Scope.lexicalInBlock :=
  flatMap_withoutCommentsIn (fun _ _ hk => lexicalInBlock_of_isComment hk)
    fun c hc => (h.child c hc).lexicalInBlock_withoutComments (ht.child c hc)

theorem SetsApart.ofBlock_withoutComments {parameter : Option Tree} (hp : ∀ p ∈ parameter, p.SetsApart) :
    Scope.ofBlock (parameter.map withoutComments) (withoutCommentsIn t.children)
      = Scope.ofBlock parameter t.children := by
  rw [Scope.ofBlock, Scope.ofBlock, h.flatMap_lexicalInBlock ht, h.varNamesIn_withoutComments,
    parameterNames_withoutComments hp]

theorem SetsApart.ofCases_withoutComments :
    Scope.ofCases (withoutCommentsIn t.children) = Scope.ofCases t.children := by
  have hlexical : ((withoutCommentsIn t.children).flatMap (·.parts .body)).flatMap Scope.lexicalInBlock
      = (t.children.flatMap (·.parts .body)).flatMap Scope.lexicalInBlock := by
    rw [List.flatMap_assoc, List.flatMap_assoc]
    refine flatMap_withoutCommentsIn (fun c hc hk => ?_) fun c hc => ?_
    · rw [parts, (h.comment c hc hk).1]
      rfl
    · rw [(h.child c hc).parts_withoutComments, List.flatMap_map]
      refine List.flatMap_congr fun s hs => ?_
      have hs : s ∈ c.children := (List.mem_filter.1 hs).1
      exact ((h.child c hc).child s hs).lexicalInBlock_withoutComments ((ht.child c hc).child s hs)
  rw [Scope.ofCases, Scope.ofCases, hlexical, h.varNamesIn_withoutComments]

end Scopes

/-! ## Surroundings -/

omit h in
theorem isBoundary_withoutComments (t : Tree) : t.withoutComments.isBoundary = t.isBoundary := by
  rw [isBoundary, isBoundary, kind_withoutComments]

omit h in
theorem isAsync_withoutComments (t : Tree) : t.withoutComments.isAsync = t.isAsync := by
  rw [isAsync, isAsync, kind_withoutComments, hasToken_withoutComments]

theorem SetsApart.labelText?_withoutComments (ht : t.Tidy) : t.withoutComments.labelText? = t.labelText? :=
  h.text_part?_withoutComments ht.isTokenOf_label

theorem SetsApart.ownLabels_withoutComments (ht : t.Tidy) : t.withoutComments.ownLabels = t.ownLabels := by
  rw [ownLabels, ownLabels, kind_withoutComments, h.labelText?_withoutComments ht, labelsLoop, labelsLoop,
    h.any_part?_withoutComments .body (·.isLoop)]

/-- A node that is as strict as it was makes the surroundings that it did. -/
theorem SetsApart.contextBelow_withoutComments (ht : t.Tidy) {c : Context}
    (hs : c.strict ∨ t.withoutComments.makesStrict = t.makesStrict) :
    contextBelow c t.withoutComments = contextBelow c t := by
  cases hb : t.isBoundary with
  | true =>
    rw [contextBelow_boundary (by rwa [isBoundary_withoutComments]), contextBelow_boundary hb, isAsync_withoutComments,
      isGenerator_withoutComments]
    rcases hs with hs | hs
    · simp only [Context.function, hs, Bool.true_or]
    · rw [hs]
  | false =>
    rw [contextBelow_inner (by rwa [isBoundary_withoutComments]), contextBelow_inner hb, kind_withoutComments,
      h.ownLabels_withoutComments ht]

theorem SetsApart.ownerOf_withoutComments (c : Tree) :
    ownerOf t.withoutComments c.withoutComments = (ownerOf t c).map withoutComments := by
  rw [ownerOf, ownerOf, kind_withoutComments, info_withoutComments, h.part?_withoutComments]
  split
  · rfl
  · split <;> rfl

theorem SetsApart.owner (c : Tree) : (ownerOf t c).SetsApart := by
  rw [ownerOf]
  split
  · trivial
  · split
    · exact fun p hp => h.child p (mem_children_of_part? hp)
    · trivial

/-! ## What the walk reads -/

section Reads

variable (ht : t.Tidy)
include ht

/-- A node makes the scope that it did. -/
theorem SetsApart.ownScope?_withoutComments {owner : Owner} (ho : owner.SetsApart) :
    t.withoutComments.ownScope? (owner.map withoutComments) = t.ownScope? owner := by
  rw [ownScope?.eq_def, ownScope?.eq_def, kind_withoutComments, children_withoutComments]
  split
  next =>
    rw [h.functionBlock?_withoutComments, h.parameters?_withoutComments]
    cases hb : t.functionBlock? with
    | none => rfl
    | some block =>
      have hmem : block ∈ t.children := mem_children_of_functionBlock? hb
      have hparameters : ∀ p ∈ t.parameters?, p.SetsApart := fun p hp => h.child p (mem_children_of_parameters? hp)
      rw [Option.map_some, Option.map_some, Option.map_some, children_withoutComments,
        (h.child block hmem).ofFunction_withoutComments (ht.child block hmem) hparameters]
  next =>
    split
    next =>
      cases owner with
      | function => rfl
      | handler parameter => exact congrArg some (h.ofBlock_withoutComments ht ho)
      | other =>
        have hnone : ∀ p ∈ (none : Option Tree), p.SetsApart := by
          intro p hp
          cases hp
        exact congrArg some (h.ofBlock_withoutComments ht hnone)
    next => rw [h.ofCases_withoutComments ht]
    next => rfl

/-- The rules read a node as they did, unless that depends on an operand behind a comment. -/
theorem SetsApart.readsAs_withoutComments {c : Context} {owner : Owner} (ho : owner.SetsApart)
    (hawait : t.kind = .awaitExpression → c.isAsync ∨ t.isCallLike = !t.isOperator)
    (hyield : t.kind = .yieldExpression → c.generator ∨ c.strict ∨ t.isCallLike = !t.isOperator) :
    ReadsAs id c owner (owner.map withoutComments) t t.withoutComments where
  kind := kind_withoutComments t
  start := congrArg Info.start (info_withoutComments t)
  label := h.labelText?_withoutComments ht
  deletes := h.deletesName_withoutComments
  awaits hk := (hawait hk).imp_right fun hread => by rw [isCallLike_withoutComments, hread]
  yields hk := (hyield hk).imp_right (·.imp_right fun hread => by rw [isCallLike_withoutComments, hread])
  scope strict := by rw [h.ownScope?_withoutComments ht ho]

end Reads
end Node

/-! ## Programs -/

/-- At some places it makes no difference how an `await` or a `yield` is read: it is allowed in a function of its kind,
and a `yield` that is not is refused in strict code. -/
def IsSettled (program : Tree) (around : List Tree) (t : Tree) : Prop :=
  (boundary? around).any t.lets ∨ t.kind = .yieldExpression ∧ program.isStrictWithin around

/-- A program is read through the comments in it: the operand of each `await` and `yield` is the first node behind it,
and the same code is strict without comments, where this makes a difference. -/
structure ReadsThrough (program : Tree) : Prop where
  operands : ∀ around t, Within program around t → t.kind.isSuspension →
    program.IsSettled around t ∨ t.isCallLike = !t.isOperator
  directives : areStrict (withoutCommentsIn program.children) = areStrict program.children
  functions : ∀ around t, Within program around t →
    program.isStrictWithin around ∨ t.withoutComments.makesStrict = t.makesStrict

instance (program : Tree) (around : List Tree) (t : Tree) : Decidable (program.IsSettled around t) :=
  inferInstanceAs (Decidable ((boundary? around).any t.lets
    ∨ t.kind = .yieldExpression ∧ program.isStrictWithin around))

instance (program : Tree) : Decidable program.ReadsThrough :=
  decidable_of_iff ((∀ around t, Within program around t → t.kind.isSuspension →
        program.IsSettled around t ∨ t.isCallLike = !t.isOperator)
      ∧ areStrict (withoutCommentsIn program.children) = areStrict program.children
      ∧ ∀ around t, Within program around t →
        program.isStrictWithin around ∨ t.withoutComments.makesStrict = t.makesStrict)
    ⟨fun h => ⟨h.1, h.2.1, h.2.2⟩, fun h => ⟨h.operands, h.directives, h.functions⟩⟩

section Program

variable {program : Tree} (hr : program.ReadsThrough)
include hr

/-- The rules read a node at a place in a program as they did. -/
theorem ReadsThrough.readsAs {around : List Tree} {t : Tree} (hw : Within program around t) (h : t.SetsApart)
    (ht : t.Tidy) {owner : Owner} (ho : owner.SetsApart) :
    ReadsAs id (program.contextWithin around) owner (owner.map withoutComments) t t.withoutComments := by
  obtain ⟨hasync, hgenerator⟩ := functions_contextWithin program around
  refine h.readsAs_withoutComments ht ho (fun hk => ?_) fun hk => ?_
  · rcases hr.operands around t hw (by rw [hk]; rfl) with (hsettled | ⟨hyield, -⟩) | hread
    · rw [lets_of_await hk] at hsettled
      exact .inl (hasync.trans hsettled)
    · rw [hk] at hyield
      cases hyield
    · exact .inr hread
  · rcases hr.operands around t hw (by rw [hk]; rfl) with (hsettled | ⟨-, hstrict⟩) | hread
    · rw [lets_of_yield hk] at hsettled
      exact .inl (hgenerator.trans hsettled)
    · exact .inr (.inl ((strict_contextWithin program around).trans hstrict))
    · exact .inr (.inr hread)

/-- The walk reads a program as it did, comments apart. -/
theorem ReadsThrough.keepsWalk : KeepsWalk withoutComments (!·.kind.isComment) id fun c owner t =>
    (∃ around, Within program around t ∧ c = program.contextWithin around) ∧ t.SetsApart ∧ t.Tidy ∧ owner.SetsApart where
  reads := by
    rintro c owner t ⟨⟨around, hw, rfl⟩, h, ht, ho⟩
    exact hr.readsAs hw h ht ho
  context := by
    rintro c owner t ⟨⟨around, hw, rfl⟩, h, ht, -⟩
    refine h.contextBelow_withoutComments ht ?_
    rw [strict_contextWithin]
    exact hr.functions around t hw
  children {c owner t} _ := by rw [children_withoutComments, withoutCommentsIn_eq]
  owner h u _ := h.2.1.ownerOf_withoutComments u
  leftOut h u hu hk c owner := by
    have hc : u.kind.isComment := by simpa using hk
    exact violation?_of_isComment hc (h.2.1.comment u hu hc).1 c owner
  below := by
    rintro c owner t ⟨⟨around, hw, rfl⟩, h, ht, -⟩ u hu
    exact ⟨⟨t :: around, .inside hw hu, rfl⟩, h.child u hu, ht.child u hu, h.owner u⟩

end Program

/-- A script without faults that is read through its comments commits the offence that it commits without them. -/
theorem programViolation?_withoutComments {source : List Char} {t : Tree} (h : parse source = some t)
    (hclean : t.info.faulty = false) (hr : t.ReadsThrough) :
    t.withoutComments.programViolation? = t.programViolation? := by
  obtain ⟨ht, -⟩ := tidy_of_parse h hclean
  have ha := setsApart_of_parse h hclean
  have hnone : ∀ p ∈ (none : Option Tree), p.SetsApart := nofun
  have hscope : Scope.ofFunction none (withoutCommentsIn t.children) = Scope.ofFunction none t.children :=
    ha.ofFunction_withoutComments ht hnone
  have hwalk := hr.keepsWalk.programViolation?_map (t := t) (by rw [children_withoutComments, withoutCommentsIn_eq])
    (by rw [children_withoutComments, hscope]) (by rw [children_withoutComments, hr.directives])
    (fun u hu hk c owner => by
      have hc : u.kind.isComment := by simpa using hk
      exact violation?_of_isComment hc (ha.comment u hu hc).1 c owner)
    fun u hu => ⟨⟨[], .top hu, rfl⟩, ha.child u hu, ht.child u hu, trivial⟩
  rwa [Option.map_id, id, id] at hwalk

/-- A parameter and a local that share a name do so with comments in all sorts of places. -/
theorem programViolation?_withoutComments_parameter : ∃ t,
    parse "#!/bin/js\n/* a */ 'use strict'; function f(x /* b */) \x7b // c\n let /* d */ x \x7d".toList = some t
      ∧ t.info.faulty = false ∧ t.ReadsThrough ∧ t.children.length = 4 ∧ t.withoutComments.children.length = 2
      ∧ t.withoutComments.programViolation? = some (.redeclared "x".toList) := by
  have h : (parse "#!/bin/js\n/* a */ 'use strict'; function f(x /* b */) \x7b // c\n let /* d */ x \x7d".toList).any
      (fun t => !t.info.faulty && t.moduleViolation?.isNone && (decide t.ReadsThrough && t.children.length = 4
        && t.withoutComments.children.length = 2 && t.programViolation? = some (.redeclared "x".toList))) = true := by
    decide +kernel
  obtain ⟨t, ht, hall⟩ := exists_of_any_parse h
  simp only [Bool.and_eq_true, decide_eq_true_eq] at hall
  obtain ⟨⟨⟨hr, hlength⟩, hleft⟩, hviolation⟩ := hall
  exact ⟨t, ht.parse, ht.faulty, hr, hlength, hleft,
    (programViolation?_withoutComments ht.parse ht.faulty hr).trans hviolation⟩

/-- A comment before a parenthesized operand has a script refused that is accepted without it, and an HTML comment
before the directives has one accepted that is refused without it. -/
theorem not_forall_programViolation?_withoutComments :
    (¬ ∀ (source : List Char) (t : Tree), ParsesCleanly source t → t.withoutComments.programViolation? = none →
        t.programViolation? = none)
      ∧ ¬ ∀ (source : List Char) (t : Tree), ParsesCleanly source t → t.programViolation? = none →
        t.withoutComments.programViolation? = none := by
  constructor
  · intro hall
    have h : (parse "await /* c */ (x)".toList).any (fun t => !t.info.faulty && t.moduleViolation?.isNone
        && (t.withoutComments.programViolation?.isNone && t.programViolation?.isSome)) = true := by decide +kernel
    obtain ⟨t, ht, htest⟩ := exists_of_any_parse h
    rw [Bool.and_eq_true, Option.isNone_iff_eq_none] at htest
    rw [hall _ t ht htest.1] at htest
    cases htest.2
  · intro hall
    have h : (parse "<!-- c\n'use strict'; with (a) \x7b\x7d".toList).any (fun t => !t.info.faulty
        && t.moduleViolation?.isNone
        && (t.programViolation?.isNone && t.withoutComments.programViolation?.isSome)) = true := by decide +kernel
    obtain ⟨t, ht, htest⟩ := exists_of_any_parse h
    rw [Bool.and_eq_true, Option.isNone_iff_eq_none] at htest
    rw [hall _ t ht htest.1] at htest
    cases htest.2

end Bookmarklet.Script.Tree
