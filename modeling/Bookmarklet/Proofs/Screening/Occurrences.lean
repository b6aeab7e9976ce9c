import Bookmarklet.Proofs.Screening.Lexeme
import Bookmarklet.Screening.Issue

/-!
# The occurrences of risks

A piece of text matches a signature between the character before it and the one after it (`Signature.Matches`). Where a
signature leaves the number of blanks open, it goes on with a character that is not blank, so at each place it matches
one piece at most, and that is the piece that is found there (`Signature.match?_eq_some_iff`).

The search for the next occurrence begins behind the last one. Nothing is missed in between: a signature begins with a
letter at the edge of a word, and in a piece that it matches no such letter stands at an edge but the first
(`Signature.any_isWord_of_matches`). So the search finds exactly the places at which the signature matches
(`Signature.mem_occurrences`), in ascending order and apart from each other (`Signature.pairwise_occurrences`). The
issues of a script report each of them for each risk (`issues_eq`).
-/

namespace Bookmarklet.Screening

open Text

namespace Signature

/-! ## What matches a signature -/

/-- A piece of text matches a signature between the characters before and after it. It may have any number of blanks
where the signature leaves that open. -/
inductive Matches : (before : Option Char) → Signature → (piece : List Char) → (after : Option Char) → Prop
  | nil {before after : Option Char} : Matches before [] [] after
  | edge {before after : Option Char} {marks : Signature} {piece : List Char}
    (hedge : isWordEdge before (piece.head?.or after)) (h : Matches before marks piece after) :
    Matches before (.edge :: marks) piece after
  | exact {before after : Option Char} {marks : Signature} {piece : List Char} {c : Char}
    (h : Matches (some c) marks piece after) : Matches before (.exact c :: marks) (c :: piece) after
  | anyCase {before after : Option Char} {marks : Signature} {piece : List Char} {c d : Char}
    (hd : foldsTo c d) (h : Matches (some d) marks piece after) :
    Matches before (.anyCase c :: marks) (d :: piece) after
  | blank {before after : Option Char} {marks : Signature} {piece : List Char} {d : Char}
    (hd : isBlank d) (h : Matches (some d) marks piece after) : Matches before (.blank :: marks) (d :: piece) after
  | noBlank {before after : Option Char} {marks : Signature} {piece : List Char}
    (h : Matches before marks piece after) : Matches before (.blanks :: marks) piece after
  | oneBlank {before after : Option Char} {marks : Signature} {piece : List Char} {d : Char}
    (hd : isBlank d) (h : Matches (some d) (.blanks :: marks) piece after) :
    Matches before (.blanks :: marks) (d :: piece) after

/-- Whether a signature has a character other than a blank behind any number of blanks. -/
def isDetermined : Signature → Bool
  | [] => true
  | .blanks :: .exact c :: marks => !isBlank c && isDetermined marks
  | .blanks :: _ => false
  | _ :: marks => isDetermined marks

section Match

variable {before after : Option Char} {marks : Signature} {piece text rest : List Char} {c d : Char}

/-- The last character before a place, in a text that starts with another one. -/
theorem getLast?_cons_or (d : Char) (front : List Char) (before : Option Char) :
    (d :: front).getLast?.or before = front.getLast?.or (some d) := by
  cases front with
  | nil => rfl
  | cons e front => simp [List.getLast?_cons]

theorem match?_blanks_cons (hd : isBlank d) (marks : Signature) (text : List Char) :
    match? before (.blanks :: marks) (d :: text) = (match? (some d) (.blanks :: marks) text).map (d :: ·) := by
  rw [match?, match?, List.takeWhile_cons_of_pos hd, List.dropWhile_cons_of_pos hd, getLast?_cons_or, Option.map_map]
  rfl

theorem match?_blanks_of_head? (h : text.head?.any isBlank = false) (marks : Signature) :
    match? before (.blanks :: marks) text = match? before marks text := by
  cases text with
  | nil => simp [match?]
  | cons d text =>
    have hd : ¬ isBlank d := by simpa using h
    rw [match?, List.takeWhile_cons_of_neg hd, List.dropWhile_cons_of_neg hd]
    simp

/-- What is found at the start of a text matches the signature. -/
theorem matches_of_match? (h : match? before marks text = some piece) :
    ∃ rest, text = piece ++ rest ∧ Matches before marks piece rest.head? := by
  induction marks generalizing before text piece with
  | nil =>
    cases h
    exact ⟨text, rfl, .nil⟩
  | cons mark marks ih =>
    cases mark with
    | edge =>
      rw [match?] at h
      split at h
      next hedge =>
        obtain ⟨rest, rfl, hm⟩ := ih h
        rw [List.head?_append] at hedge
        exact ⟨rest, rfl, .edge hedge hm⟩
      next => cases h
    | exact c =>
      cases text with
      | nil => cases h
      | cons d text =>
        rw [match?] at h
        split at h
        next hc =>
          obtain ⟨tail, htail, rfl⟩ := Option.map_eq_some_iff.1 h
          obtain ⟨rest, rfl, hm⟩ := ih htail
          rw [← eq_of_beq hc] at hm ⊢
          exact ⟨rest, rfl, .exact hm⟩
        next => cases h
    | anyCase c =>
      cases text with
      | nil => cases h
      | cons d text =>
        rw [match?] at h
        split at h
        next hc =>
          obtain ⟨tail, htail, rfl⟩ := Option.map_eq_some_iff.1 h
          obtain ⟨rest, rfl, hm⟩ := ih htail
          exact ⟨rest, rfl, .anyCase hc hm⟩
        next => cases h
    | blank =>
      cases text with
      | nil => cases h
      | cons d text =>
        rw [match?] at h
        split at h
        next hd =>
          obtain ⟨tail, htail, rfl⟩ := Option.map_eq_some_iff.1 h
          obtain ⟨rest, rfl, hm⟩ := ih htail
          exact ⟨rest, rfl, .blank hd hm⟩
        next => cases h
    | blanks =>
      induction text generalizing before piece with
      | nil =>
        rw [match?_blanks_of_head? rfl] at h
        obtain ⟨rest, htext, hm⟩ := ih h
        exact ⟨rest, htext, .noBlank hm⟩
      | cons d text iht =>
        by_cases hd : isBlank d
        · rw [match?_blanks_cons hd] at h
          obtain ⟨tail, htail, rfl⟩ := Option.map_eq_some_iff.1 h
          obtain ⟨rest, rfl, hm⟩ := iht htail
          exact ⟨rest, rfl, .oneBlank hd hm⟩
        · rw [match?_blanks_of_head? (by simpa using hd)] at h
          obtain ⟨rest, htext, hm⟩ := ih h
          exact ⟨rest, htext, .noBlank hm⟩

/-- Behind any number of blanks a determined signature has a character that is none. -/
theorem exists_exact_of_isDetermined (hd : isDetermined (.blanks :: marks)) :
    ∃ c rest, marks = .exact c :: rest ∧ isBlank c = false ∧ isDetermined rest := by
  cases marks with
  | nil => cases hd
  | cons mark marks =>
    cases mark with
    | exact c =>
      rw [isDetermined, Bool.and_eq_true, Bool.not_eq_true'] at hd
      exact ⟨c, marks, rfl, hd.1, hd.2⟩
    | _ => cases hd

/-- If a determined signature matches a piece at the start of a text, that is the one which is found. -/
theorem match?_of_matches (hm : Matches before marks piece after) (hd : isDetermined marks)
    (hafter : rest.head? = after) : match? before marks (piece ++ rest) = some piece := by
  induction hm with
  | nil => rfl
  | edge hedge _ ih =>
    rw [match?, List.head?_append, hafter, if_pos hedge]
    exact ih hd hafter
  | exact _ ih =>
    rw [List.cons_append, match?, if_pos (beq_self_eq_true _), ih hd hafter]
    rfl
  | anyCase hfolds _ ih =>
    rw [List.cons_append, match?, if_pos hfolds, ih hd hafter]
    rfl
  | blank hblank _ ih =>
    rw [List.cons_append, match?, if_pos hblank, ih hd hafter]
    rfl
  | oneBlank hblank _ ih =>
    rw [List.cons_append, match?_blanks_cons hblank, ih hd hafter]
    rfl
  | noBlank hm ih =>
    obtain ⟨c, marks, rfl, hc, hmarks⟩ := exists_exact_of_isDetermined hd
    cases hm with
    | exact hm =>
      rw [match?_blanks_of_head? (by simpa using hc)]
      exact ih hmarks hafter

/-- A determined signature finds at the start of a text the piece that it matches. -/
theorem match?_eq_some_iff (hd : isDetermined marks) :
    match? before marks text = some piece ↔ ∃ rest, text = piece ++ rest ∧ Matches before marks piece rest.head? := by
  constructor
  · exact matches_of_match?
  · rintro ⟨rest, rfl, hm⟩
    exact match?_of_matches hm hd rfl

end Match

/-! ## Places at which a signature matches -/

/-- Whether `c` stands at the edge of a word nowhere in the pieces that a signature matches; `inWord` tells that the
character before them belongs to a word. -/
def lacksStart (c : Char) : (inWord : Bool) → Signature → Bool
  | _, [] => true
  | inWord, .edge :: marks => lacksStart c inWord marks
  | inWord, .exact d :: marks => (inWord || d != c) && lacksStart c (isWord d) marks
  | inWord, .anyCase d :: marks => (inWord || !foldsTo d c) && lacksStart c false marks
  | _, .blank :: marks => lacksStart c false marks
  | _, .blanks :: marks => lacksStart c false marks

/-- Whether a signature starts with a letter at the edge of a word, which no piece that it matches has at an edge
again. -/
def isSeparate : Signature → Bool
  | .edge :: .exact c :: marks => isWord c && lacksStart c true marks
  | _ => false

section Separate

variable {s marks : Signature} {before after : Option Char} {piece front back rest : List Char} {c : Char}

/-- The characters before a letter that does not stand at an edge end in a word. -/
theorem any_isWord_of_matches (hm : Matches before marks piece after) (hc : isWord c) :
    ∀ {inWord : Bool} {front back : List Char}, lacksStart c inWord marks → (inWord → before.any isWord) →
      piece = front ++ c :: back → (front.getLast?.or before).any isWord := by
  have hblank {d : Char} (hd : isBlank d) : d ≠ c := by
    rintro rfl
    rw [isWord_of_isBlank hd] at hc
    cases hc
  induction hm with
  | nil =>
    intro inWord front back _ _ hpiece
    simp at hpiece
  | edge _ _ ih => exact fun hl hin hpiece => ih hl hin hpiece
  | noBlank _ ih => exact fun hl _ hpiece => ih hl nofun hpiece
  | exact _ ih =>
    intro inWord front back hl hin hpiece
    rw [lacksStart, Bool.and_eq_true, Bool.or_eq_true, bne_iff_ne] at hl
    cases front with
    | nil =>
      obtain ⟨rfl, rfl⟩ := List.cons_eq_cons.1 hpiece
      exact hin (hl.1.resolve_right fun hne => hne rfl)
    | cons e front =>
      obtain ⟨rfl, rfl⟩ := List.cons_eq_cons.1 hpiece
      rw [getLast?_cons_or]
      exact ih hl.2 id rfl
  | anyCase hd _ ih =>
    intro inWord front back hl hin hpiece
    rw [lacksStart, Bool.and_eq_true, Bool.or_eq_true, Bool.not_eq_true'] at hl
    cases front with
    | nil =>
      obtain ⟨rfl, rfl⟩ := List.cons_eq_cons.1 hpiece
      refine hin (hl.1.resolve_right ?_)
      simp [hd]
    | cons e front =>
      obtain ⟨rfl, rfl⟩ := List.cons_eq_cons.1 hpiece
      rw [getLast?_cons_or]
      exact ih hl.2 nofun rfl
  | blank hd _ ih =>
    intro inWord front back hl _ hpiece
    cases front with
    | nil => exact absurd (List.cons_eq_cons.1 hpiece).1 (hblank hd)
    | cons e front =>
      obtain ⟨rfl, rfl⟩ := List.cons_eq_cons.1 hpiece
      rw [getLast?_cons_or]
      exact ih hl nofun rfl
  | oneBlank hd _ ih =>
    intro inWord front back hl _ hpiece
    cases front with
    | nil => exact absurd (List.cons_eq_cons.1 hpiece).1 (hblank hd)
    | cons e front =>
      obtain ⟨rfl, rfl⟩ := List.cons_eq_cons.1 hpiece
      rw [getLast?_cons_or]
      exact @ih false front back hl nofun rfl

/-- A separate signature is found only where a letter stands at the edge of a word, with which all its pieces start. -/
theorem exists_of_isSeparate (hs : s.isSeparate) : ∃ c marks, s = .edge :: .exact c :: marks ∧ isWord c
    ∧ lacksStart c true marks := by
  unfold isSeparate at hs
  split at hs
  next c marks =>
    rw [Bool.and_eq_true] at hs
    exact ⟨c, marks, rfl, hs⟩
  next => cases hs

/-- Within a piece that a separate signature matches, the signature is not found again. -/
theorem match?_within_piece (hs : s.isSeparate) (hm : Matches before s (front ++ back) after) (hfront : front ≠ [])
    (hback : back ≠ []) (rest : List Char) : match? (front.getLast?.or before) s (back ++ rest) = none := by
  obtain ⟨c, marks, rfl, hc, hl⟩ := exists_of_isSeparate hs
  obtain ⟨d, back, rfl⟩ := List.exists_cons_of_ne_nil hback
  obtain ⟨e, front, rfl⟩ := List.exists_cons_of_ne_nil hfront
  rw [List.cons_append, match?, match?]
  split
  next hedge =>
    rw [if_neg]
    intro heq
    obtain rfl := eq_of_beq heq
    cases hm with
    | edge _ hm =>
      rw [List.cons_append] at hm
      cases hm with
      | exact hm =>
        have hword := any_isWord_of_matches hm hc hl (fun _ => hc) rfl
        rw [getLast?_cons_or, isWordEdge, hword] at hedge
        simp [hc] at hedge
  next => rfl

/-- A separate signature matches no empty piece. -/
theorem Matches.ne_nil (hm : Matches before s piece after) (hs : s.isSeparate) : piece ≠ [] := by
  obtain ⟨c, marks, rfl, -⟩ := exists_of_isSeparate hs
  cases hm with
  | edge _ hm =>
    cases hm with
    | exact _ => exact List.cons_ne_nil _ _

end Separate

/-! ## The search -/

section Search

variable {s : Signature} {text : List Char} {index skip : Nat} {before : Option Char} {o : Occurrence}

/-- A part of a text that starts with a character begins at that or behind it. -/
theorem exists_append_cons {p : List Char → List Char → Prop} {c : Char} {cs : List Char} :
    (∃ front back, c :: cs = front ++ back ∧ p front back) ↔
      p [] (c :: cs) ∨ ∃ front back, cs = front ++ back ∧ p (c :: front) back := by
  constructor
  · rintro ⟨front, back, htext, h⟩
    cases front with
    | nil =>
      rw [List.nil_append] at htext
      exact .inl (htext ▸ h)
    | cons d front =>
      obtain ⟨rfl, rfl⟩ := List.cons_eq_cons.1 htext
      exact .inr ⟨front, back, rfl, h⟩
  · rintro (h | ⟨front, back, rfl, h⟩)
    · exact ⟨[], c :: cs, rfl, h⟩
    · exact ⟨c :: front, back, rfl, h⟩

/-- If a separate signature is not found in what is skipped, the search finds it wherever it is found. -/
theorem mem_occurrencesFrom (hs : s.isSeparate) :
    ∀ {text : List Char} {index skip : Nat} {before : Option Char},
      (∀ front back, text = front ++ back → front.length < skip → match? (front.getLast?.or before) s back = none) →
      (o ∈ occurrencesFrom s index skip before text ↔ ∃ front back, text = front ++ back ∧
        o.index = index + byteLength front ∧ match? (front.getLast?.or before) s back = some o.text)
  | [], index, skip, before, _ => by
    rw [occurrencesFrom]
    refine iff_of_false List.not_mem_nil ?_
    rintro ⟨front, back, htext, -, hfound⟩
    obtain ⟨-, rfl⟩ := List.append_eq_nil_iff.1 htext.symm
    obtain ⟨rest, htext, hm⟩ := matches_of_match? hfound
    exact hm.ne_nil hs (List.append_eq_nil_iff.1 htext.symm).1
  | c :: cs, index, skip, before, hskip => by
    -- the places behind the first character, if nothing is missed in what is skipped there
    have hfurther {skip : Nat} (hskip : ∀ front back, cs = front ++ back → front.length < skip →
        match? ((c :: front).getLast?.or before) s back = none) :
        o ∈ occurrencesFrom s (index + c.utf8Size) skip (some c) cs ↔ ∃ front back, cs = front ++ back ∧
          o.index = index + byteLength (c :: front) ∧ match? ((c :: front).getLast?.or before) s back = some o.text := by
      simp only [getLast?_cons_or] at hskip
      rw [mem_occurrencesFrom hs hskip]
      simp only [getLast?_cons_or, byteLength, Nat.add_assoc]
    rw [exists_append_cons]
    cases skip with
    | succ skip =>
      have hfirst : match? before s (c :: cs) = none := hskip [] (c :: cs) rfl (Nat.succ_pos skip)
      rw [occurrencesFrom, hfurther]
      · simp [hfirst]
      · rintro front back rfl hlen
        exact hskip (c :: front) back rfl (Nat.succ_lt_succ hlen)
    | zero =>
      rw [occurrencesFrom]
      cases hfirst : match? before s (c :: cs) with
      | none =>
        simp only
        rw [hfurther]
        · simp [hfirst]
        · exact fun _ _ _ hlen => absurd hlen (Nat.not_lt_zero _)
      | some piece =>
        simp only [List.mem_cons]
        rw [hfurther]
        · refine or_congr_left ?_
          cases o
          simp [hfirst, byteLength, eq_comm]
        · -- the rest of the piece is skipped
          rintro front back rfl hlen
          obtain ⟨rest, htext, hm⟩ := matches_of_match? hfirst
          rw [← List.cons_append] at htext
          obtain ⟨behind, rfl, rfl⟩ | ⟨more, hfront, -⟩ := List.append_eq_append_iff.1 htext
          · refine match?_within_piece hs hm (List.cons_ne_nil _ _) ?_ rest
            rintro rfl
            simp at hlen
          · have hlength := congrArg List.length hfront
            simp only [List.length_cons, List.length_append] at hlength
            omega

/-- The search finds nothing in what is skipped. -/
theorem le_index_of_mem (h : o ∈ occurrencesFrom s index skip before text) :
    index + byteLength (text.take skip) ≤ o.index := by
  induction text generalizing index skip before with
  | nil => cases h
  | cons c cs ih =>
    cases skip with
    | succ skip =>
      rw [occurrencesFrom] at h
      have hle := ih h
      rw [List.take_succ_cons, byteLength]
      omega
    | zero =>
      rw [occurrencesFrom] at h
      rw [List.take_zero, byteLength, Nat.add_zero]
      split at h
      next piece _ =>
        rcases List.mem_cons.1 h with rfl | h
        · exact Nat.le_refl _
        · have hle := ih h
          omega
      next =>
        have hle := ih h
        omega

/-- What the search finds begins behind the end of what it found before. -/
theorem pairwise_occurrencesFrom :
    (occurrencesFrom s index skip before text).Pairwise fun o p => o.index + o.length ≤ p.index := by
  induction text generalizing index skip before with
  | nil => exact .nil
  | cons c cs ih =>
    cases skip with
    | succ skip =>
      rw [occurrencesFrom]
      exact ih
    | zero =>
      rw [occurrencesFrom]
      split
      next piece hpiece =>
        refine .cons (fun p hp => ?_) ih
        have hle := le_index_of_mem hp
        obtain ⟨rest, htext, -⟩ := matches_of_match? hpiece
        change index + byteLength piece ≤ p.index
        cases piece with
        | nil =>
          rw [byteLength]
          omega
        | cons d piece =>
          rw [List.cons_append] at htext
          obtain ⟨rfl, rfl⟩ := List.cons_eq_cons.1 htext
          rw [List.length_cons, Nat.add_sub_cancel, List.take_left] at hle
          rw [byteLength]
          omega
      next => exact ih

/-- A signature that is determined and separate is found wherever it matches a piece of a text, and nowhere else. -/
theorem mem_occurrences (hd : s.isDetermined) (hs : s.isSeparate) :
    o ∈ s.occurrences text ↔ ∃ front back, text = front ++ o.text ++ back ∧ o.index = byteLength front ∧
      Matches front.getLast? s o.text back.head? := by
  rw [occurrences, mem_occurrencesFrom hs fun _ _ _ hlen => absurd hlen (Nat.not_lt_zero _)]
  simp only [Nat.zero_add, Option.or_none, match?_eq_some_iff hd]
  constructor
  · rintro ⟨front, -, rfl, hindex, back, rfl, hm⟩
    exact ⟨front, back, (List.append_assoc _ _ _).symm, hindex, hm⟩
  · rintro ⟨front, back, rfl, hindex, hm⟩
    exact ⟨front, o.text ++ back, List.append_assoc _ _ _, hindex, back, rfl, hm⟩

/-- An occurrence has at least a byte. -/
theorem length_pos_of_mem (hd : s.isDetermined) (hs : s.isSeparate) (h : o ∈ s.occurrences text) : 0 < o.length := by
  obtain ⟨front, back, -, -, hm⟩ := (mem_occurrences hd hs).1 h
  obtain ⟨c, piece, htext⟩ := List.exists_cons_of_ne_nil (hm.ne_nil hs)
  have hsize : 0 < c.utf8Size := Char.utf8Size_pos c
  rw [Occurrence.length, htext, byteLength]
  omega

end Search

end Signature

/-! ## The issues of a script -/

/-- In each of the signatures of risks, a character other than a blank is behind any number of blanks, and the letter
with which it starts is at an edge once. -/
theorem risks_determined_separate : ∀ risk ∈ risks, risk.signature.isDetermined ∧ risk.signature.isSeparate := by
  decide +kernel

/-- The issues of a script that is not blank are its syntax error, if it has one, and for each risk in order a warning at
every place where the signature of the risk matches a piece of the script. The warnings of a risk have the bytes of these
pieces, in ascending order and apart from each other. -/
theorem issues_eq {source : String} (h : trim source.toList ≠ []) :
    ∃ warned : Risk → List Issue,
      issues source = (match Script.check source.toList with
          | .ok _ => []
          | .error e => [⟨"Syntax error: " ++ e.message, 0, 1, .error⟩]) ++ risks.flatMap warned
        ∧ ∀ risk ∈ risks,
          (warned risk).Pairwise (fun i j => i.index < j.index ∧ i.index + i.length ≤ j.index)
            ∧ ∀ i, i ∈ warned risk ↔ ∃ front piece back, source.toList = front ++ piece ++ back ∧
              risk.signature.Matches front.getLast? piece back.head? ∧
              i = ⟨risk.advice, byteLength front, byteLength piece, .warning⟩ := by
  refine ⟨fun risk => (risk.signature.occurrences source.toList).map (.ofOccurrence risk), ?_, ?_⟩
  · have hblank : (trim source.toList).isEmpty = false := by simpa using h
    unfold issues syntaxIssues riskIssues
    simp only [hblank, Bool.false_eq_true, if_false]
    generalize Script.check source.toList = verdict
    cases verdict <;> rfl
  · intro risk hrisk
    obtain ⟨hd, hs⟩ := risks_determined_separate risk hrisk
    have hissue {o : Occurrence} (ho : o ∈ risk.signature.occurrences source.toList) :
        Issue.ofOccurrence risk o = ⟨risk.advice, o.index, o.length, .warning⟩ := by
      rw [Issue.ofOccurrence, Nat.max_eq_left (Signature.length_pos_of_mem hd hs ho)]
    constructor
    · rw [List.pairwise_map]
      refine Signature.pairwise_occurrencesFrom.imp_of_mem fun {o p} ho hp hle => ?_
      rw [hissue ho, hissue hp]
      have hpos := Signature.length_pos_of_mem hd hs ho
      exact ⟨by simp only; omega, hle⟩
    · intro i
      rw [List.mem_map]
      constructor
      · rintro ⟨o, ho, rfl⟩
        obtain ⟨front, back, htext, hindex, hm⟩ := (Signature.mem_occurrences hd hs).1 ho
        exact ⟨front, o.text, back, htext, hm, by rw [hissue ho, hindex, Occurrence.length]⟩
      · rintro ⟨front, piece, back, htext, hm, rfl⟩
        have ho : ⟨byteLength front, piece⟩ ∈ risk.signature.occurrences source.toList :=
          (Signature.mem_occurrences hd hs).2 ⟨front, back, htext, rfl, hm⟩
        exact ⟨_, ho, by rw [hissue ho, Occurrence.length]⟩

/-- Of two pieces, one behind a character of two bytes and one with a blank of two bytes in it, both are reported. -/
theorem issues_eq_twice :
    trim "\u00e9; eval (1); eval\u00a0(2)".toList ≠ []
      ∧ (∃ i ∈ issues "\u00e9; eval (1); eval\u00a0(2)", i.index = 4 ∧ i.length = 6)
      ∧ ∃ i ∈ issues "\u00e9; eval (1); eval\u00a0(2)", i.index = 14 ∧ i.length = 7 := by
  have hblank : trim "\u00e9; eval (1); eval\u00a0(2)".toList ≠ [] := by decide +kernel
  obtain ⟨warned, hissues, hwarned⟩ := issues_eq hblank
  have hreported {index length : Nat} (h : risks.any (fun risk =>
      (risk.signature.occurrences "\u00e9; eval (1); eval\u00a0(2)".toList).any fun o =>
        o.index = index && o.length = length) = true) :
      ∃ i ∈ issues "\u00e9; eval (1); eval\u00a0(2)", i.index = index ∧ i.length = length := by
    simp only [List.any_eq_true, Bool.and_eq_true, decide_eq_true_eq] at h
    obtain ⟨risk, hrisk, o, ho, rfl, rfl⟩ := h
    obtain ⟨hd, hs⟩ := risks_determined_separate risk hrisk
    obtain ⟨front, back, htext, hindex, hm⟩ := (Signature.mem_occurrences hd hs).1 ho
    refine ⟨⟨risk.advice, byteLength front, byteLength o.text, .warning⟩, ?_, hindex.symm, rfl⟩
    rw [hissues, List.mem_append, List.mem_flatMap]
    exact .inr ⟨risk, hrisk, ((hwarned risk hrisk).2 _).2 ⟨front, o.text, back, htext, hm, rfl⟩⟩
  exact ⟨hblank, hreported (by decide +kernel), hreported (by decide +kernel)⟩

end Bookmarklet.Screening
