import Bookmarklet.Screening.Catalogue

/-!
# What the gate reads of a text

The gate looks for words, and for words that blanks alone keep apart. All that it reads of a text is the list of its
words and of the signs between them, without the blanks (`lexemes`):

* a text is banned if and only if its lexemes are (`isBanned_eq`);
* the lexemes of a text are those of its parts, unless two parts meet within a word (`lexemes_append`).

So it does not matter to the gate how many blanks stand where some stand, nor whether any stand next to a sign.
-/

namespace Bookmarklet.Text

/-! ## Words and blanks -/

/-- Whether a text is a word in any case; the word is written small. -/
def isForm : (word text : List Char) → Bool
  | [], [] => true
  | c :: word, d :: text => foldsTo c d && isForm word text
  | _, _ => false

/-- Blanks belong to no word. -/
theorem isWord_of_isBlank {c : Char} (h : isBlank c) : isWord c = false := by
  have hapart : ∀ b ∈ blankRanges, ∀ w ∈ wordRanges, b.2 < w.1 ∨ w.2 < b.1 := by decide +kernel
  obtain ⟨⟨low, high⟩, hb, hc⟩ := List.any_eq_true.1 h
  simp only [Bool.and_eq_true, decide_eq_true_eq] at hc
  unfold isWord
  split
  next hascii =>
    have hlow : c.toNat ≤ 13 ∨ c.toNat = 32 := by
      simp only [blankRanges, List.mem_cons, Prod.mk.injEq, List.not_mem_nil, or_false] at hb
      omega
    rw [Bool.eq_false_iff]
    intro hw
    unfold Char.isAlphanum Char.isAlpha Char.isUpper Char.isLower Char.isDigit at hw
    simp only [Bool.or_eq_true, Bool.and_eq_true, decide_eq_true_eq, beq_iff_eq, UInt32.le_iff_toNat_le, ge_iff_le,
      Char.reduceVal, UInt32.reduceToNat] at hw
    rcases hw with hw | rfl
    · simp only [Char.toNat] at hlow
      omega
    · exact absurd hlow (by decide)
  next =>
    rw [Bool.eq_false_iff]
    intro hw
    obtain ⟨⟨l, u⟩, hm, hlu⟩ := List.any_eq_true.1 hw
    simp only [Bool.and_eq_true, decide_eq_true_eq] at hlu
    have := hapart _ hb _ hm
    simp only at this
    omega

theorem isWord_of_isAlpha {c : Char} (h : c.isAlpha) : isWord c := by
  have hascii : c.toNat < 128 := by
    unfold Char.isAlpha Char.isUpper Char.isLower at h
    simp only [Bool.or_eq_true, Bool.and_eq_true, decide_eq_true_eq, UInt32.le_iff_toNat_le, ge_iff_le,
      Char.reduceVal, UInt32.reduceToNat] at h
    simp only [Char.toNat]
    omega
  simp [isWord, hascii, Char.isAlphanum, h]

/-- The forms of a small letter belong to words. -/
theorem isWord_of_foldsTo {c d : Char} (hc : c.isLower) (h : foldsTo c d) : isWord d := by
  simp only [foldsTo, Bool.or_eq_true, Bool.and_eq_true, beq_iff_eq] at h
  rcases h with (rfl | ⟨-, rfl⟩) | ⟨-, rfl⟩
  · refine isWord_of_isAlpha ?_
    unfold Char.isAlpha
    by_cases hu : d.isUpper
    · rw [hu, Bool.true_or]
    · unfold Char.isUpper at hu
      unfold Char.toLower at hc
      rw [decide_eq_true_eq] at hu
      rw [dif_neg hu] at hc
      rw [hc, Bool.or_true]
  · decide +kernel
  · decide +kernel

/-- The forms of a word in small letters have no other characters than those of words. -/
theorem all_isWord_of_isForm :
    ∀ {word text : List Char}, word.all Char.isLower → isForm word text → text.all isWord
  | [], [], _, _ => rfl
  | c :: word, d :: text, hl, h => by
    simp only [List.all_cons, Bool.and_eq_true, isForm] at hl h ⊢
    exact ⟨isWord_of_foldsTo hl.1 h.1, all_isWord_of_isForm hl.2 h.2⟩

theorem isForm_nil_right {word : List Char} (h : isForm word []) : word = [] := by
  cases word with
  | nil => rfl
  | cons c word => cases h

/-- The first word of a text. -/
def firstWord (text : List Char) : List Char := text.takeWhile isWord

/-- A text without its first word. -/
def afterWord (text : List Char) : List Char := text.dropWhile isWord

theorem firstWord_append_afterWord (text : List Char) : firstWord text ++ afterWord text = text :=
  List.takeWhile_append_dropWhile

theorem head?_afterWord (text : List Char) : (afterWord text).head?.any isWord = false := by
  have h := List.head?_dropWhile_not isWord text
  unfold afterWord
  cases hd : (text.dropWhile isWord).head? with
  | none => rfl
  | some c => simpa [hd] using h

/-- A word is the first of a text if the text goes on with something else. -/
theorem firstWord_append {word rest : List Char} (hw : word.all isWord) (hr : rest.head?.any isWord = false) :
    firstWord (word ++ rest) = word ∧ afterWord (word ++ rest) = rest := by
  have hall : ∀ c ∈ word, isWord c := List.all_eq_true.1 hw
  rw [firstWord, afterWord, List.takeWhile_append_of_pos hall, List.dropWhile_append_of_pos hall]
  cases rest with
  | nil => simp
  | cons c rest =>
    have hc : ¬ isWord c := by simpa using hr
    simp [List.takeWhile_cons_of_neg hc, List.dropWhile_cons_of_neg hc]

end Bookmarklet.Text

namespace Bookmarklet.Screening

open Text

/-! ## What a signature finds -/

namespace Signature

/-- A word in any case is found where a form of it stands. -/
theorem match?_anyCase (marks : Signature) : ∀ (word : List Char) (before : Option Char) (text : List Char),
    (match? before (word.map .anyCase ++ marks) text).isSome ↔
      ∃ piece rest, text = piece ++ rest ∧ isForm word piece ∧ (match? (piece.getLast?.or before) marks rest).isSome
  | [], before, text => by
    constructor
    · exact fun h => ⟨[], text, rfl, rfl, by simpa using h⟩
    · rintro ⟨piece, rest, rfl, hform, h⟩
      cases piece with
      | nil => simpa using h
      | cons d piece => cases hform
  | c :: word, before, [] => by
    constructor
    · intro h
      cases h
    · rintro ⟨piece, rest, heq, hform, -⟩
      rw [(List.append_eq_nil_iff.1 heq.symm).1] at hform
      cases hform
  | c :: word, before, d :: text => by
    have hlast (piece : List Char) : (d :: piece).getLast?.or before = piece.getLast?.or (some d) := by
      cases piece with
      | nil => rfl
      | cons e piece => simp [List.getLast?_cons]
    simp only [List.map_cons, List.cons_append, match?]
    constructor
    · intro h
      split at h
      next hc =>
        rw [Option.isSome_map, match?_anyCase marks word (some d) text] at h
        obtain ⟨piece, rest, rfl, hform, h⟩ := h
        exact ⟨d :: piece, rest, rfl, by simp [isForm, hc, hform], by rwa [hlast]⟩
      next => cases h
    · rintro ⟨piece, rest, heq, hform, h⟩
      cases piece with
      | nil => cases hform
      | cons e piece =>
        cases heq
        simp only [isForm, Bool.and_eq_true] at hform
        rw [if_pos hform.1, Option.isSome_map, match?_anyCase marks word (some d) _]
        exact ⟨piece, rest, rfl, hform.2, by rwa [← hlast]⟩

theorem match?_edge (before : Option Char) (marks : Signature) (text : List Char) :
    (match? before (.edge :: marks) text).isSome ↔ isWordEdge before text.head? ∧ (match? before marks text).isSome := by
  rw [match?]
  split <;> simp_all

/-- Marks that do not match within a word. -/
def EndsWord (marks : Signature) : Prop :=
  ∀ c text, isWord c → (match? (some c) marks text).isSome → text.head?.any isWord = false

theorem endsWord_edge : EndsWord [.edge] := by
  intro c text hc h
  have hedge := ((match?_edge _ _ _).1 h).1
  simpa [isWordEdge, hc] using hedge

theorem endsWord_blank (marks : Signature) : EndsWord (.blank :: marks) := by
  intro c text _ h
  cases text with
  | nil => rfl
  | cons d text =>
    rw [match?] at h
    split at h
    next hd => exact isWord_of_isBlank hd
    next => cases h

/-- A word in any case, and what ends a word, are found where the first word of the text is a form of it. -/
theorem match?_firstWord {word : List Char} {marks : Signature} (hl : word.all Char.isLower) (hne : word ≠ [])
    (hm : EndsWord marks) (before : Option Char) (text : List Char) :
    (match? before (word.map .anyCase ++ marks) text).isSome ↔
      isForm word (firstWord text) ∧ (match? (firstWord text).getLast? marks (afterWord text)).isSome := by
  have hlast {piece : List Char} (hform : isForm word piece) : ∃ c, piece.getLast? = some c ∧ isWord c := by
    cases hp : piece.getLast? with
    | none =>
      rw [List.getLast?_eq_none_iff.1 hp] at hform
      exact absurd (isForm_nil_right hform) hne
    | some c => exact ⟨c, rfl, List.all_eq_true.1 (all_isWord_of_isForm hl hform) c (List.mem_of_getLast? hp)⟩
  rw [match?_anyCase]
  constructor
  · rintro ⟨piece, rest, rfl, hform, h⟩
    obtain ⟨c, hp, hc⟩ := hlast hform
    rw [hp, Option.some_or] at h
    obtain ⟨hfirst, hafter⟩ := firstWord_append (all_isWord_of_isForm hl hform) (hm c rest hc h)
    rw [hfirst, hafter, hp]
    exact ⟨hform, h⟩
  · rintro ⟨hform, h⟩
    obtain ⟨c, hp, -⟩ := hlast hform
    refine ⟨firstWord text, afterWord text, (firstWord_append_afterWord text).symm, hform, ?_⟩
    rwa [hp, Option.some_or, ← hp]

/-- A word in any case with its edges is found where it is the first word of the text. -/
theorem match?_word {word : List Char} (hl : word.all Char.isLower) (hne : word ≠ []) {before : Option Char}
    (hb : before.any isWord = false) (marks : Signature) (hm : EndsWord marks) (text : List Char) :
    (match? before (.edge :: (word.map .anyCase ++ marks)) text).isSome ↔
      isForm word (firstWord text) ∧ (match? (firstWord text).getLast? marks (afterWord text)).isSome := by
  rw [match?_edge, match?_firstWord hl hne hm]
  refine ⟨And.right, fun h => ⟨?_, h⟩⟩
  cases text with
  | nil => exact absurd (isForm_nil_right h.1) hne
  | cons c text =>
    have hc : isWord c := by
      cases hw : isWord c with
      | true => rfl
      | false =>
        rw [firstWord, List.takeWhile_cons_of_neg (by simp [hw])] at h
        exact absurd (isForm_nil_right h.1) hne
    simp [isWordEdge, hb, hc]

/-- The first word of a text ends at an edge. -/
theorem match?_afterWord {word text : List Char} (hl : word.all Char.isLower) (hne : word ≠ [])
    (hform : isForm word (firstWord text)) : (match? (firstWord text).getLast? [.edge] (afterWord text)).isSome := by
  refine (match?_edge _ _ _).2 ⟨?_, rfl⟩
  have hall := all_isWord_of_isForm hl hform
  cases hp : (firstWord text).getLast? with
  | none =>
    rw [List.getLast?_eq_none_iff.1 hp] at hform
    exact absurd (isForm_nil_right hform) hne
  | some c => simp [isWordEdge, head?_afterWord, List.all_eq_true.1 hall c (List.mem_of_getLast? hp)]

variable {before : Option Char}

/-- Within a word, no word is found. -/
theorem match?_within {c : Char} (hc : c.isLower) (hb : before.any isWord) (marks : Signature) (text : List Char) :
    (match? before (.edge :: .anyCase c :: marks) text).isSome = false := by
  rw [Bool.eq_false_iff]
  intro h
  obtain ⟨hedge, h⟩ := (match?_edge _ _ _).1 h
  have hhead : text.head?.any isWord = false := by simpa [isWordEdge, hb] using hedge
  cases text with
  | nil => cases h
  | cons d text =>
    rw [match?] at h
    split at h
    next hd =>
      rw [List.head?_cons, Option.any_some, isWord_of_foldsTo hc hd] at hhead
      cases hhead
    next => cases h

/-- A single word is found where the first word of the text is a form of it. -/
theorem match?_single {word : List Char} (hl : word.all Char.isLower) (hne : word ≠ [])
    (hb : before.any isWord = false) (text : List Char) :
    (match? before (.edge :: (word.map .anyCase ++ [.edge])) text).isSome = isForm word (firstWord text) := by
  rw [Bool.eq_iff_iff, match?_word hl hne hb _ endsWord_edge]
  exact ⟨And.left, fun hform => ⟨hform, match?_afterWord hl hne hform⟩⟩

/-- Two words with blanks between them are found where the first word of the text is a form of the one, and the next
word, which nothing but blanks keeps apart from it, a form of the other. -/
theorem match?_pair {word other : List Char} (hl : word.all Char.isLower) (hne : word ≠ [])
    (hl' : other.all Char.isLower) (hne' : other ≠ []) (hb : before.any isWord = false) (text : List Char) :
    (match? before (.edge :: (word.map .anyCase ++ (.blank :: .blanks :: (other.map .anyCase ++ [.edge])))) text).isSome
      = (isForm word (firstWord text) && isForm other (firstWord ((afterWord text).dropWhile isBlank))) := by
  rw [Bool.eq_iff_iff, match?_word hl hne hb _ (endsWord_blank _), Bool.and_eq_true]
  refine and_congr_right fun _ => ?_
  have hafter := head?_afterWord text
  cases hrest : afterWord text with
  | nil =>
    constructor
    · intro h
      cases h
    · exact fun h => absurd (isForm_nil_right h) hne'
  | cons d rest =>
    rw [hrest] at hafter
    by_cases hd : isBlank d
    · rw [match?, if_pos hd, Option.isSome_map, match?, Option.isSome_map, match?_firstWord hl' hne' endsWord_edge,
        List.dropWhile_cons_of_pos hd]
      exact ⟨And.left, fun hform => ⟨hform, match?_afterWord hl' hne' hform⟩⟩
    · rw [match?, if_neg hd, List.dropWhile_cons_of_neg hd, firstWord, List.takeWhile_cons_of_neg (by simpa using hafter)]
      constructor
      · intro h
        cases h
      · exact fun h => absurd (isForm_nil_right h) hne'

end Signature

/-! ## Lexemes -/

/-- What the gate reads at once. -/
inductive Lexeme where
  | word (text : List Char)
  /-- A character that belongs to no word and is no blank. -/
  | sign
  deriving DecidableEq

namespace Lexeme

/-- Lets the first of some words start with a character more. -/
def prepend (c : Char) : List Lexeme → List Lexeme
  | word w :: rest => word (c :: w) :: rest
  | rest => word [c] :: rest

/-- Whether a list starts with a form of a word. -/
def startsWith (text : List Char) : List Lexeme → Bool
  | word w :: _ => isForm text w
  | _ => false

/-- Words that are banned by themselves. -/
def isBannedWord (text : List Char) : Bool :=
  isForm "eval".toList text || isForm "fetch".toList text || isForm "xmlhttprequest".toList text

/-- Whether something banned is among some lexemes: a word, or two words in a row. -/
def areBanned : List Lexeme → Bool
  | [] => false
  | sign :: rest => areBanned rest
  | word w :: rest =>
    isBannedWord w || (isForm "new".toList w && startsWith "function".toList rest) || areBanned rest

end Lexeme

/-- The lexemes of a text. -/
def lexemes : List Char → List Lexeme
  | [] => []
  | c :: cs =>
    if isBlank c then lexemes cs
    else if !isWord c then .sign :: lexemes cs
    else if cs.head?.any isWord then Lexeme.prepend c (lexemes cs)
    else .word [c] :: lexemes cs

section Lexemes

variable {c : Char}

theorem lexemes_blank (h : isBlank c) (cs : List Char) : lexemes (c :: cs) = lexemes cs := by
  rw [lexemes, if_pos h]

theorem lexemes_sign (hb : isBlank c = false) (hw : isWord c = false) (cs : List Char) :
    lexemes (c :: cs) = .sign :: lexemes cs := by
  simp [lexemes, hb, hw]

theorem lexemes_dropBlanks (text : List Char) : lexemes (text.dropWhile isBlank) = lexemes text := by
  induction text with
  | nil => rfl
  | cons c cs ih =>
    by_cases h : isBlank c
    · rw [List.dropWhile_cons_of_pos h, lexemes_blank h, ih]
    · rw [List.dropWhile_cons_of_neg h]

theorem lexemes_letter (h : isWord c) (cs : List Char) :
    lexemes (c :: cs) = if cs.head?.any isWord then Lexeme.prepend c (lexemes cs) else .word [c] :: lexemes cs := by
  have hb : isBlank c = false := by
    rw [Bool.eq_false_iff]
    intro hb
    rw [isWord_of_isBlank hb] at h
    cases h
  simp [lexemes, hb, h]

/-- A word is read as a whole. -/
theorem lexemes_word (h : isWord c) (cs : List Char) :
    lexemes (c :: cs) = .word (c :: firstWord cs) :: lexemes (afterWord cs) := by
  induction cs generalizing c with
  | nil => rw [lexemes_letter h]; rfl
  | cons d cs ih =>
    rw [lexemes_letter h]
    by_cases hd : isWord d
    · rw [ih hd]
      simp [hd, Lexeme.prepend, firstWord, afterWord]
    · simp [hd, firstWord, afterWord]

/-- The first word of a text is the first lexeme. -/
theorem startsWith_lexemes {word : List Char} (hne : word ≠ []) (text : List Char) :
    Lexeme.startsWith word (lexemes text) = isForm word (firstWord (text.dropWhile isBlank)) := by
  have hnil : isForm word [] = false := Bool.eq_false_iff.2 fun h => hne (isForm_nil_right h)
  have hhead := List.head?_dropWhile_not isBlank text
  rw [← lexemes_dropBlanks]
  cases hd : text.dropWhile isBlank with
  | nil => exact hnil.symm
  | cons c cs =>
    have hb : isBlank c = false := by simpa [hd] using hhead
    by_cases hw : isWord c
    · rw [lexemes_word hw, firstWord, firstWord, List.takeWhile_cons_of_pos hw]
      rfl
    · rw [lexemes_sign hb (by simpa using hw), firstWord, List.takeWhile_cons_of_neg hw, hnil]
      rfl

/-- The lexemes of a text are those of its parts, unless the parts meet within a word. -/
theorem lexemes_append (b : List Char) : ∀ a : List Char, (a.getLast?.any isWord && b.head?.any isWord) = false →
    lexemes (a ++ b) = lexemes a ++ lexemes b
  | [], _ => rfl
  | [c], h => by
    by_cases hb : isBlank c
    · rw [List.singleton_append, lexemes_blank hb, lexemes_blank hb]
      rfl
    · by_cases hw : isWord c
      · have hhead : b.head?.any isWord = false := by simpa [hw] using h
        have hnil : List.all [] isWord := rfl
        obtain ⟨hfirst, hafter⟩ := firstWord_append hnil hhead
        rw [List.nil_append] at hfirst hafter
        rw [List.singleton_append, lexemes_word hw, hfirst, hafter, lexemes_word hw]
        rfl
      · have hw : isWord c = false := by simpa using hw
        rw [List.singleton_append, lexemes_sign (by simpa using hb) hw, lexemes_sign (by simpa using hb) hw]
        rfl
  | c :: d :: a, h => by
    have ih := lexemes_append b (d :: a) (by simpa using h)
    rw [List.cons_append]
    by_cases hb : isBlank c
    · rw [lexemes_blank hb, lexemes_blank hb, ih]
    · by_cases hw : isWord c
      · rw [lexemes_letter hw, lexemes_letter hw, ih, List.cons_append, List.head?_cons, List.head?_cons]
        split
        next hd =>
          rw [lexemes_word hd]
          rfl
        next => rfl
      · have hw : isWord c = false := by simpa using hw
        rw [lexemes_sign (by simpa using hb) hw, lexemes_sign (by simpa using hb) hw, ih]
        rfl

end Lexemes

/-! ## The gate -/

/-- Whether something banned starts right behind a character. -/
def isFoundAt (before : Option Char) (text : List Char) : Bool := bans.any fun s => (s.match? before text).isSome

/-- Whether something banned starts anywhere behind a character. -/
def isBannedFrom (before : Option Char) (text : List Char) : Bool := bans.any (·.occursFrom before text)

theorem isBannedFrom_cons (before : Option Char) (c : Char) (cs : List Char) :
    isBannedFrom before (c :: cs) = (isFoundAt before (c :: cs) || isBannedFrom (some c) cs) := by
  simp only [isBannedFrom, isFoundAt, bans, Signature.occursFrom, List.any_cons, List.any_nil, Bool.or_false]
  ac_rfl

section Found

variable {before : Option Char}

theorem isFoundAt_eq (hb : before.any isWord = false) (text : List Char) :
    isFoundAt before text = (Lexeme.isBannedWord (firstWord text)
      || (isForm "new".toList (firstWord text)
        && isForm "function".toList (firstWord ((afterWord text).dropWhile isBlank)))) := by
  have hsingle {word : List Char} (hl : word.all Char.isLower) (hne : word ≠ []) :=
    Signature.match?_single hl hne hb text
  have hpair {word other : List Char} (hl : word.all Char.isLower) (hne : word ≠ []) (hl' : other.all Char.isLower)
      (hne' : other ≠ []) := Signature.match?_pair hl hne hl' hne' hb text
  simp only [isFoundAt, bans, Signature.inAnyCase, List.cons_append, List.nil_append, List.append_assoc, List.any_cons,
    List.any_nil, Bool.or_false, Lexeme.isBannedWord]
  rw [hsingle rfl (by decide), hsingle rfl (by decide), hsingle rfl (by decide),
    hpair rfl (by decide) rfl (by decide)]
  ac_rfl

/-- Nothing is found where no word starts. -/
theorem isFoundAt_of_no_word (text : List Char) (h : before.any isWord ∨ text.head?.any isWord = false) :
    isFoundAt before text = false := by
  cases hb : before.any isWord with
  | false =>
    have hfirst : firstWord text = [] := by
      cases text with
      | nil => rfl
      | cons c cs => rw [firstWord, List.takeWhile_cons_of_neg (by simpa [hb] using h)]
    rw [isFoundAt_eq hb, hfirst]
    rfl
  | true =>
    have hwithin {c : Char} (hc : c.isLower) (marks : Signature) := Signature.match?_within hc hb marks text
    simp only [isFoundAt, bans, List.any_eq_false, Bool.not_eq_true, List.mem_cons, List.not_mem_nil, or_false]
    rintro s (rfl | rfl | rfl | rfl)
    · exact hwithin (c := 'e') rfl _
    · exact hwithin (c := 'n') rfl _
    · exact hwithin (c := 'f') rfl _
    · exact hwithin (c := 'x') rfl _

/-- What is banned in the rest of a text, of whose first word a part may have been read. -/
theorem isBannedFrom_eq : ∀ (text : List Char) (before : Option Char),
    isBannedFrom before text = Lexeme.areBanned (lexemes (if before.any isWord then afterWord text else text))
  | [], before => by
    have hnil : isBannedFrom before [] = isFoundAt before [] := rfl
    rw [hnil, isFoundAt_of_no_word [] (.inr rfl)]
    split <;> rfl
  | c :: cs, before => by
    rw [isBannedFrom_cons, isBannedFrom_eq cs, Option.any_some]
    by_cases hc : isWord c
    · rw [if_pos hc]
      cases hb : before.any isWord with
      | true =>
        rw [isFoundAt_of_no_word _ (.inl hb), Bool.false_or, if_pos rfl, afterWord, afterWord,
          List.dropWhile_cons_of_pos hc]
      | false =>
        rw [isFoundAt_eq hb, if_neg (by simp), lexemes_word hc, Lexeme.areBanned,
          startsWith_lexemes (by decide), firstWord, List.takeWhile_cons_of_pos hc, afterWord,
          List.dropWhile_cons_of_pos hc]
        rfl
    · have hafter : afterWord (c :: cs) = c :: cs := List.dropWhile_cons_of_neg hc
      have hw : isWord c = false := by simpa using hc
      rw [isFoundAt_of_no_word _ (.inr (by simpa using hw)), Bool.false_or, if_neg hc, hafter, ite_self]
      by_cases hb : isBlank c
      · rw [lexemes_blank hb]
      · rw [lexemes_sign (by simpa using hb) hw, Lexeme.areBanned]

end Found

/-- The gate reads the lexemes of a text and nothing else. -/
theorem isBanned_eq (text : List Char) : isBanned text = (Lexeme.areBanned (lexemes text)) :=
  isBannedFrom_eq text none

end Bookmarklet.Screening
