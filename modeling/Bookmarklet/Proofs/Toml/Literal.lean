import Mathlib.Data.List.Basic
import Bookmarklet.Toml.Reader

/-!
# Literals

What stands for a value at the end of a line (`Spells`): a word (`Spells.word`), among these the decimal digits of a
number that 64 bits can hold (`Spells.numeral`), and a text in quotes (`Spells.quoted`).
-/

namespace Bookmarklet.Toml

/-- At the end of a line, a literal is read as a value. -/
def Spells (literal : List Char) (v : Value) : Prop :=
  literal.head?.any isBlank = false
    ∧ ∀ rest, readValue depthLimit (literal ++ '\n' :: rest) = some (v, '\n' :: rest)

/-! ## Words -/

section Words

variable {word : List Char}

theorem splitWord_append (h : ∀ c ∈ word, isWordChar c) (rest : List Char) :
    splitWord (word ++ '\n' :: rest) = (word, '\n' :: rest) := by
  have htake : (word ++ '\n' :: rest).takeWhile isWordChar = word := by
    rw [List.takeWhile_append_of_pos h, List.takeWhile_cons_of_neg (by decide), List.append_nil]
  have hdrop : (word ++ '\n' :: rest).dropWhile isWordChar = '\n' :: rest := by
    rw [List.dropWhile_append_of_pos h, List.dropWhile_cons_of_neg (by decide)]
  rw [splitWord, htake, hdrop]
  split
  next heq => cases heq
  next => rfl

/-- A word spells what it is told to be. -/
theorem Spells.ofWord {v : Value} (hne : word ≠ []) (h : ∀ c ∈ word, isWordChar c) (hv : ofWord? word = some v) :
    Spells word v := by
  obtain ⟨c, cs, rfl⟩ := List.exists_cons_of_ne_nil hne
  have hsign {d : Char} (hd : isWordChar d = false) : c ≠ d := by
    rintro rfl
    exact Bool.false_ne_true (hd.symm.trans (h c List.mem_cons_self))
  refine ⟨?_, fun rest => ?_⟩
  · have hspace : c ≠ ' ' := hsign (by decide)
    have htab : c ≠ '\t' := hsign (by decide)
    simp [isBlank, hspace, htab]
  · unfold readValue
    split
    next heq => exact absurd (List.cons.inj heq).1 (hsign (by decide))
    next heq => exact absurd (List.cons.inj heq).1 (hsign (by decide))
    next heq => exact absurd (List.cons.inj heq).1 (hsign (by decide))
    next heq => exact absurd (List.cons.inj heq).1 (hsign (by decide))
    next => simp only [readWord, splitWord_append h, hv, Option.map_some]

end Words

/-! ## Numbers -/

section Numbers

variable (n : Nat)

theorem isDigit_toDigits : ∀ c ∈ Nat.toDigits 10 n, c.isDigit :=
  fun _ => Nat.isDigit_of_mem_toDigits (by decide) (by decide)

/-- The digits of a number other than zero do not start with a zero. -/
theorem head?_toDigits (hn : 0 < n) : (Nat.toDigits 10 n).head? ≠ some '0' := by
  induction n using Nat.strongRecOn with
  | _ n ih =>
    rw [Nat.toDigits_eq_if (by decide)]
    split
    · simpa [Nat.digitChar_eq_zero] using Nat.ne_of_gt hn
    · rw [List.head?_append_of_ne_nil _ Nat.toDigits_ne_nil]
      exact ih (n / 10) (by omega) (by omega)

theorem hasIdleZero_toDigits : hasIdleZero (Nat.toDigits 10 n) = false := by
  by_cases hn : n < 10
  · simp [Nat.toDigits_of_lt_base hn, hasIdleZero]
  · have hhead := head?_toDigits n (by omega)
    unfold hasIdleZero
    split
    next heq => simp [heq] at hhead
    next => rfl

theorem ungroup?_eq_some {isDigit : Char → Bool} (hunderscore : isDigit '_' = false) {digits : List Char}
    (hne : digits ≠ []) (h : ∀ c ∈ digits, isDigit c) : ungroup? isDigit digits = some digits := by
  induction digits with
  | nil => contradiction
  | cons c cs ih =>
    have hc : isDigit c := h c List.mem_cons_self
    cases cs with
    | nil => simp [ungroup?, hc]
    | cons d ds =>
      have hd : d ≠ '_' := fun heq => by
        have hd : isDigit d := h d (by simp)
        simp [heq, hunderscore] at hd
      have hrest := ih (List.cons_ne_nil d ds) fun c hm => h c (List.mem_cons_of_mem _ hm)
      rw [ungroup?, if_pos hc, hrest]
      · rfl
      · nofun
      · rintro rest heq
        exact hd (List.cons.inj heq).1

theorem digitsValue_toDigits : Text.digitsValue 10 (Nat.toDigits 10 n) = n := by
  have hfold (m : Nat) {digits : List Char} (h : ∀ c ∈ digits, c.isDigit) :
      digits.foldl (fun n c => 10 * n + (Text.hexValue? c).getD 0) m = Nat.ofDigitChars 10 digits m := by
    induction digits generalizing m with
    | nil => rfl
    | cons c cs ih =>
      have hc : (Text.hexValue? c).getD 0 = c.toNat - '0'.toNat := by
        rw [Text.hexValue?, if_pos (h c List.mem_cons_self), Option.getD_some]
      rw [List.foldl_cons, ih _ fun c hm => h c (List.mem_cons_of_mem _ hm), hc]
      rfl
  rw [Text.digitsValue, hfold _ (isDigit_toDigits n), Nat.ofDigitChars_ten_toDigits]

theorem decimal?_toDigits : decimal? (Nat.toDigits 10 n) = some n := by
  rw [decimal?, hasIdleZero_toDigits, if_neg Bool.false_ne_true, natural?,
    ungroup?_eq_some (by decide) Nat.toDigits_ne_nil (isDigit_toDigits n), Option.map_some, digitsValue_toDigits]

theorem integer?_toDigits : integer? (Nat.toDigits 10 n) = (some (n : Int)).filter representable := by
  have hdigit {c : Char} (hc : c.isDigit = false) : c ∉ Nat.toDigits 10 n := fun hm =>
    Bool.false_ne_true (hc.symm.trans (isDigit_toDigits n c hm))
  have hsplit : splitSign (Nat.toDigits 10 n) = (false, Nat.toDigits 10 n) := by
    unfold splitSign
    split
    next heq => exact absurd (heq ▸ List.mem_cons_self) (hdigit (c := '-') (by decide))
    next heq => exact absurd (heq ▸ List.mem_cons_self) (hdigit (c := '+') (by decide))
    next => rfl
  -- A second character that is a letter would tell another base, but all are digits.
  unfold integer?
  split
  next heq => exact absurd (heq ▸ List.mem_cons_of_mem _ List.mem_cons_self) (hdigit (c := 'x') (by decide))
  next heq => exact absurd (heq ▸ List.mem_cons_of_mem _ List.mem_cons_self) (hdigit (c := 'o') (by decide))
  next heq => exact absurd (heq ▸ List.mem_cons_of_mem _ List.mem_cons_self) (hdigit (c := 'b') (by decide))
  next => simp [hsplit, decimal?_toDigits]

/-- The digits of a number that can be represented spell it. -/
theorem Spells.numeral {n : Nat} (h : representable n) : Spells (Nat.toDigits 10 n) (.integer n) := by
  have hword : ∀ c ∈ Nat.toDigits 10 n, isWordChar c := fun c hc => by
    simp [isWordChar, Char.isAlphanum, isDigit_toDigits n c hc]
  refine .ofWord Nat.toDigits_ne_nil hword ?_
  have hname {name : List Char} {c : Char} (hm : c ∈ name) (hc : c.isDigit = false) : Nat.toDigits 10 n ≠ name :=
    fun heq => Bool.false_ne_true (hc.symm.trans (isDigit_toDigits n c (heq ▸ hm)))
  rw [ofWord?, if_neg (hname (c := 't') (by decide) (by decide)), if_neg (hname (c := 'f') (by decide) (by decide)),
    integer?_toDigits, Option.filter_some, if_pos h]

end Numbers

/-! ## Texts -/

/-- A text is read up to the quote behind it, if it holds nothing that has to be escaped. -/
theorem readBasic_append {text : List Char} (h : ∀ c ∈ text, isPlain c ∧ c ≠ '"' ∧ c ≠ '\\') (rest : List Char) :
    readBasic (text ++ '"' :: rest) = some (text, rest) := by
  induction text with
  | nil => simp [readBasic]
  | cons c cs ih =>
    obtain ⟨hplain, hquote, hbackslash⟩ := h c List.mem_cons_self
    rw [List.cons_append, readBasic, if_pos hplain, ih fun c hm => h c (List.mem_cons_of_mem _ hm)]
    · rfl
    · exact hquote
    · exact hbackslash

/-- A text in quotes spells itself, if it holds nothing that has to be escaped. -/
theorem Spells.quoted {text : List Char} (h : ∀ c ∈ text, isPlain c ∧ c ≠ '"' ∧ c ≠ '\\') :
    Spells ('"' :: text ++ ['"']) (.string (String.ofList text)) := by
  refine ⟨rfl, fun rest => ?_⟩
  have hshort : ∀ more, text ++ '"' :: '\n' :: rest ≠ '"' :: '"' :: more := fun more heq => by
    cases text with
    | nil => cases heq
    | cons c cs => exact (h c List.mem_cons_self).2.1 (List.cons.inj heq).1
  have hread : readString ('"' :: (text ++ '"' :: '\n' :: rest)) = some (text, '\n' :: rest) := by
    rw [readString]
    · exact readBasic_append h _
    · exact hshort
  rw [List.append_assoc, List.cons_append, List.singleton_append]
  unfold readValue
  split
  next heq => cases heq
  next heq => cases heq
  next => rw [hread, Option.map_some]
  next heq => cases heq
  next hquote _ _ _ => exact absurd rfl (hquote _)

end Bookmarklet.Toml
