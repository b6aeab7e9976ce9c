import Bookmarklet.Proofs.Script.Sparse
import Bookmarklet.Script.Minify

/-!
# When something is written for a script

Nothing is written for pieces of which each is blank (`Piece.write_eq_nil`), and a tree has a piece that is not blank if
it has a token (`Tree.exists_piece`): its leaves have text (`Tree.Reads.spelled`), and so have the new names of its
locals (`Tree.name_ne_nil_of_mem_plan`). A semicolon may be noted only; but in a tree without other tokens it is
written, as that tree is sparse. So nothing is written for an accepted script exactly if it has no tokens
(`emit_eq_nil_iff_of_check`), and all others are minified (`minify_eq_ok_iff`).
-/

namespace Bookmarklet.Script

namespace Piece

/-- Whether nothing is written for a piece by itself. -/
def isBlank : Piece → Bool
  | token text _ => text.isEmpty
  | terminator => true

theorem write_eq_nil {pieces : List Piece} {ending : Option Ending} {due : Bool} :
    write ending due pieces = [] ↔ ∀ p ∈ pieces, p.isBlank := by
  induction pieces generalizing ending due with
  | nil => simp [write]
  | cons p rest ih =>
    cases p with
    | terminator => simp [write, ih, isBlank]
    | token text isNumber =>
      cases text with
      | nil => simp [write, ih, isBlank]
      | cons c cs => simp [write, isBlank]

end Piece

namespace Tree

/-! ## Texts -/

mutual
/-- Each leaf of a tree has text. -/
def Spelled : Tree → Prop
  | leaf _ text => text ≠ []
  | node _ children => SpelledIn children

/-- Each leaf of some trees has text. -/
def SpelledIn : List Tree → Prop
  | [] => True
  | t :: ts => t.Spelled ∧ SpelledIn ts
end

mutual
theorem Reads.spelled : ∀ {t : Tree} {a b : Cursor}, t.Reads a b → t.info.faulty = false → t.Spelled
  | leaf info text, _, _, ⟨_, _, _, _, hfaulty⟩, hf => fun hnil => by
    rw [show info.faulty = false from hf] at hfaulty
    exact absurd (hfaulty hnil) Bool.false_ne_true
  | node info children, _, _, ⟨hreads, hfaulty⟩, hf => ReadsIn.spelled hreads (clean_of_mem hfaulty hf)

theorem ReadsIn.spelled : ∀ {ts : List Tree} {a b : Cursor}, ReadsIn ts a b → (∀ t ∈ ts, t.info.faulty = false) →
    SpelledIn ts
  | [], _, _, _, _ => trivial
  | t :: _, _, _, ⟨_, _, _, ht, hts⟩, hf =>
    ⟨ht.spelled (hf t List.mem_cons_self), hts.spelled fun u hu => hf u (List.mem_cons_of_mem t hu)⟩
end

section Texts

variable {test : Kind → Bool}

mutual
theorem spacedText_ne_nil : ∀ {t : Tree}, t.Spelled → t.anyToken test → t.spacedText ≠ []
  | leaf info text, hs, _ => by simp [spacedText, show text ≠ [] from hs]
  | node info children, hs, ht => by
    rw [anyToken, Bool.and_eq_true] at ht
    exact spacedTextOf_ne_nil hs ht.2

theorem spacedTextOf_ne_nil : ∀ {ts : List Tree}, SpelledIn ts → anyTokenIn test ts → spacedTextOf ts ≠ []
  | t :: ts, ⟨hs, hss⟩, ht => by
    rw [spacedTextOf, ne_eq, List.append_eq_nil_iff, not_and_or]
    exact (Bool.or_eq_true_iff.1 ht).imp (spacedText_ne_nil hs) (spacedTextOf_ne_nil hss)
end

mutual
/-- A tree that has a token has text. -/
theorem text_ne_nil : ∀ {t : Tree}, t.Spelled → t.anyToken test → t.text ≠ []
  | leaf _ _, hs, _ => hs
  | node info children, hs, ht => by
    rw [anyToken, Bool.and_eq_true] at ht
    exact textOf_ne_nil hs ht.2

theorem textOf_ne_nil : ∀ {ts : List Tree}, SpelledIn ts → anyTokenIn test ts → textOf ts ≠ []
  | t :: ts, ⟨hs, hss⟩, ht => by
    rw [textOf, ne_eq, List.append_eq_nil_iff, not_and_or]
    exact (Bool.or_eq_true_iff.1 ht).imp (text_ne_nil hs) (spacedTextOf_ne_nil hss)
end

end Texts

/-! ## New names -/

theorem name_ne_nil_of_mem_functionPlan {t : Tree} {e : Nat × List Char} (he : e ∈ t.functionPlan) : e.2 ≠ [] := by
  unfold functionPlan at he
  split at he
  · cases he
  next survey bound _ =>
    obtain ⟨⟨start, name⟩, -, hnew⟩ := List.mem_filterMap.1 he
    obtain ⟨new, hlookup, rfl⟩ := Option.map_eq_some_iff.1 hnew
    obtain ⟨k, -, hspell, -⟩ := Plan.assign_values _ _ _ (mem_of_lookup_eq_some hlookup)
    exact hspell ▸ FreshName.spell_ne_nil k

mutual
/-- Each new name has letters. -/
theorem name_ne_nil_of_mem_plan : ∀ {t : Tree} {e : Nat × List Char}, e ∈ t.plan → e.2 ≠ []
  | leaf _ _, _, he => by cases he
  | node info children, e, he => by
    rw [plan] at he
    rcases List.mem_append.1 he with he | he
    · split at he
      · exact name_ne_nil_of_mem_functionPlan he
      · cases he
    · exact name_ne_nil_of_mem_planIn he

theorem name_ne_nil_of_mem_planIn : ∀ {ts : List Tree} {e : Nat × List Char}, e ∈ planIn ts → e.2 ≠ []
  | [], _, he => by cases he
  | t :: ts, e, he => by
    rw [planIn] at he
    exact (List.mem_append.1 he).elim name_ne_nil_of_mem_plan name_ne_nil_of_mem_planIn
end

mutual
theorem Sparse.plan_eq_nil : ∀ {t : Tree}, t.Sparse → t.plan = []
  | leaf _ _, _ => rfl
  | node info children, ⟨hplain, hs⟩ => by
    rw [plan, (Kind.isPlain_iff.1 hplain).2.2.2.1, SparseIn.planIn_eq_nil hs]
    rfl

theorem SparseIn.planIn_eq_nil : ∀ {ts : List Tree}, SparseIn ts → planIn ts = []
  | [], _ => rfl
  | _ :: _, ⟨hs, hss⟩ => by rw [planIn, hs.plan_eq_nil, SparseIn.planIn_eq_nil hss]; rfl
end

/-! ## Pieces -/

section Pieces

variable {plan : Plan} {parent : Option Kind} {info : Info} {text : List Char}

theorem writtenText_ne_nil (hplan : ∀ e ∈ plan, e.2 ≠ []) (h : text ≠ []) : writtenText plan parent info text ≠ [] := by
  unfold writtenText
  split
  · cases hlookup : plan.lookup info.start.byte with
    | none => exact h
    | some new => exact hplan _ (mem_of_lookup_eq_some hlookup)
  · split
    · exact List.cons_ne_nil _ _
    · exact h
  · split
    · exact List.cons_ne_nil _ _
    · exact h
  · exact h

/-- A token is written, unless it is a semicolon that ends a statement. -/
theorem isBlank_tokenPiece (hplan : ∀ e ∈ plan, e.2 ≠ []) (h : text ≠ [])
    (hends : info.kind = .token .semicolon → parent.any (·.isTerminated) = false) :
    (tokenPiece plan parent info text).isBlank = false := by
  unfold tokenPiece
  split
  next hsemicolon =>
    rw [Bool.and_eq_true, decide_eq_true_eq] at hsemicolon
    rw [hends hsemicolon.1] at hsemicolon
    cases hsemicolon.2
  next =>
    rw [Piece.isBlank, List.isEmpty_eq_false_iff]
    exact writtenText_ne_nil hplan h

variable {test : Kind → Bool}

mutual
/-- A tree that has a token has a piece that is not blank, unless the token is a semicolon which ends a statement; in a
sparse tree none does. -/
theorem exists_piece (hplan : ∀ e ∈ plan, e.2 ≠ []) : ∀ {t : Tree} {parent : Option Kind} {followed : Bool},
    t.Spelled → t.anyToken test → (test (.token .semicolon) → t.Sparse ∧ parent.any (·.isTerminated) = false) →
      ∃ p ∈ t.pieces plan parent followed, p.isBlank = false
  | leaf info text, parent, followed, hs, ht, hsemicolon => by
    rw [anyToken, Bool.and_eq_true, Bool.not_eq_true'] at ht
    rw [pieces, ht.1]
    refine ⟨_, List.mem_singleton_self _, isBlank_tokenPiece hplan hs fun hk => ?_⟩
    exact (hsemicolon (hk ▸ ht.2)).2
  | node info children, parent, followed, hs, ht, hsemicolon => by
    have htext := text_ne_nil hs ht
    rw [anyToken, Bool.and_eq_true, Bool.not_eq_true'] at ht
    have hempty : children.isEmpty = false := by
      cases children with
      | nil => cases ht.2
      | cons t ts => rfl
    rw [pieces, ht.1, hempty, Bool.false_or]
    simp only [Bool.false_eq_true, if_false]
    split
    next hverbatim =>
      refine ⟨_, List.mem_singleton_self _, isBlank_tokenPiece hplan htext fun hk => ?_⟩
      rw [hk] at hverbatim
      cases hverbatim
    next =>
      obtain ⟨p, hp, hblank⟩ := exists_pieceIn hplan hs ht.2 fun h =>
        ⟨(hsemicolon h).1.2, (Kind.isPlain_iff.1 (hsemicolon h).1.1).2.1⟩
      exact ⟨p, List.mem_append_left _ hp, hblank⟩

theorem exists_pieceIn (hplan : ∀ e ∈ plan, e.2 ≠ []) : ∀ {ts : List Tree} {parent : Kind}, SpelledIn ts →
    anyTokenIn test ts → (test (.token .semicolon) → SparseIn ts ∧ parent.isTerminated = false) →
      ∃ p ∈ piecesIn plan parent ts, p.isBlank = false
  | t :: ts, parent, ⟨hs, hss⟩, ht, hsemicolon => by
    rw [piecesIn]
    rcases Bool.or_eq_true_iff.1 ht with ht | ht
    · have hhere (h : test (.token .semicolon)) : t.Sparse ∧ (some parent).any (·.isTerminated) = false :=
        ⟨(hsemicolon h).1.1, (hsemicolon h).2⟩
      obtain ⟨p, hp, hblank⟩ := exists_piece hplan hs ht hhere
      exact ⟨p, List.mem_append_left _ hp, hblank⟩
    · obtain ⟨p, hp, hblank⟩ := exists_pieceIn hplan hss ht fun h => ⟨(hsemicolon h).1.2, (hsemicolon h).2⟩
      exact ⟨p, List.mem_append_right _ hp, hblank⟩
end

/-- For a token without text nothing is written, where no new name is planned. -/
theorem isBlank_tokenPiece_nil (htrue : info.kind ≠ .trueLiteral) (hfalse : info.kind ≠ .falseLiteral) :
    (tokenPiece [] parent info []).isBlank := by
  unfold tokenPiece
  split
  · rfl
  · rw [Piece.isBlank, List.isEmpty_iff]
    unfold writtenText
    split
    · rfl
    next h => exact absurd h htrue
    next h => exact absurd h hfalse
    · rfl

mutual
/-- A sparse tree without tokens has blank pieces only. -/
theorem Sparse.isBlank_of_mem_pieces : ∀ {t : Tree} {parent : Option Kind} {followed : Bool}, t.Sparse →
    t.hasTokens = false → ∀ p ∈ t.pieces [] parent followed, p.isBlank
  | leaf info text, parent, followed, _, ht => by
    rw [hasTokens, anyToken, Bool.and_true, Bool.not_eq_false'] at ht
    rw [pieces, ht]
    exact nofun
  | node info children, parent, followed, ⟨hplain, hs⟩, ht => by
    obtain ⟨hfiller, hterminated, hverbatim, -, htrue, hfalse⟩ := Kind.isPlain_iff.1 hplain
    rw [hasTokens, anyToken] at ht
    rw [pieces, hverbatim, hterminated, Bool.or_false, Bool.false_and, Bool.false_and]
    split
    · exact nofun
    next hcomment =>
      split
      next hempty =>
        rw [List.isEmpty_iff.1 hempty]
        exact List.forall_mem_singleton.2 (isBlank_tokenPiece_nil htrue hfalse)
      next =>
        have hcomment : info.kind.isComment = false := by simpa using hcomment
        rw [hcomment] at ht
        simpa using hs.isBlank_of_mem_piecesIn ht

theorem SparseIn.isBlank_of_mem_piecesIn : ∀ {ts : List Tree} {parent : Kind}, SparseIn ts →
    anyTokenIn (fun _ => true) ts = false → ∀ p ∈ piecesIn [] parent ts, p.isBlank
  | [], _, _, _ => nofun
  | t :: ts, parent, ⟨hs, hss⟩, ht => by
    obtain ⟨ht, hts⟩ := Bool.or_eq_false_iff.1 ht
    rw [piecesIn]
    exact List.forall_mem_append.2 ⟨hs.isBlank_of_mem_pieces ht, hss.isBlank_of_mem_piecesIn hts⟩
end

end Pieces

/-! ## What is written -/

/-- Nothing is written for a tree exactly if it has no tokens, given that it is sparse unless it has words. -/
theorem emit_eq_nil_iff {t : Tree} (hs : t.Spelled) (hsparse : t.hasWords = false → t.Sparse) :
    t.emit t.plan = [] ↔ t.hasTokens = false := by
  rw [emit, Piece.write_eq_nil]
  have hplan : ∀ e ∈ t.plan, e.2 ≠ [] := fun e => name_ne_nil_of_mem_plan
  constructor
  · intro hblank
    by_contra htokens
    rw [Bool.not_eq_false] at htokens
    obtain ⟨p, hp, hp'⟩ : ∃ p ∈ t.pieces t.plan none false, p.isBlank = false := by
      cases hwords : t.hasWords with
      | true => exact exists_piece hplan hs hwords fun h => by simp at h
      | false => exact exists_piece hplan hs htokens fun _ => ⟨hsparse hwords, rfl⟩
    rw [hblank p hp] at hp'
    cases hp'
  · intro htokens
    have hsparse : t.Sparse := by
      refine hsparse (Bool.eq_false_iff.2 fun hwords => ?_)
      rw [hasTokens_of_hasWords hwords] at htokens
      cases htokens
    rw [hsparse.plan_eq_nil]
    exact hsparse.isBlank_of_mem_pieces htokens

end Tree

/-- Nothing is written for an accepted script exactly if it has no token that is not a comment. -/
theorem emit_eq_nil_iff_of_check {source : List Char} {t : Tree} (h : check source = .ok t) :
    t.emit t.plan = [] ↔ t.hasTokens = false := by
  obtain ⟨a, b, text, c, -, hreads, -⟩ := reads_of_parse (check_eq_ok_iff.1 h).1
  exact Tree.emit_eq_nil_iff (hreads.spelled (clean_of_check h)) (sparse_of_check h)

/-- What is minified: an accepted script with a token that is not a comment. -/
theorem minify_eq_ok_iff {source minified : List Char} :
    minify source = .ok minified ↔ ∃ t, check source = .ok t ∧ t.hasTokens ∧ minified = t.emit t.plan := by
  unfold minify
  cases hcheck : check source with
  | error e => simp
  | ok t =>
    have htokens := emit_eq_nil_iff_of_check hcheck
    simp only [Except.ok.injEq, exists_eq_left']
    split
    next hnil => simp [htokens.1 hnil]
    next hne =>
      have htokens : t.hasTokens := by
        by_contra h
        exact hne (htokens.2 (Bool.eq_false_iff.2 h))
      simp [htokens, eq_comm]

end Bookmarklet.Script
