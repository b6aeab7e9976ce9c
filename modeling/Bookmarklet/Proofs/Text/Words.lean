import Bookmarklet.Text.Blank

/-!
# The words of a text

A text that starts with a word has that word before those of the rest (`exists_words_eq_cons`), so that its first word
can be read off it (`headD_words`), and it has none only if it is blank (`collapse_eq_nil_iff`).
-/

namespace Bookmarklet.Text

variable {text : List Char}

/-- The characters of a text up to the next blank, behind the blanks at its start. -/
def leadingWord (text : List Char) : List Char := (text.dropWhile isBlank).takeWhile (!isBlank ·)

theorem isBlank_of_mem_leadingWord {c : Char} (h : c ∈ leadingWord text) : isBlank c = false := by
  simpa using List.all_eq_true.1 List.all_takeWhile c h

/-- The first word of a text that starts with one, and the rest. -/
theorem exists_words_eq_cons : ∀ {text : List Char}, text.head?.all isBlank = false →
    ∃ word rest, text = word ++ rest ∧ rest.head?.all isBlank ∧ words text = word :: words rest
  | [], h => by cases h
  | c :: cs, h => by
    have hc : isBlank c = false := by simpa using h
    cases hcs : cs.head?.all isBlank with
    | true => exact ⟨[c], cs, rfl, hcs, by simp [words, hc, hcs]⟩
    | false =>
      obtain ⟨word, rest, rfl, hrest, hwords⟩ := exists_words_eq_cons hcs
      refine ⟨c :: word, rest, rfl, hrest, ?_⟩
      rw [words, hcs, hwords]
      simp [hc, prepend]

/-- The first word of a text that starts with a character other than a blank starts with that. -/
theorem exists_words_cons {c : Char} (h : isBlank c = false) (cs : List Char) :
    ∃ word rest, words (c :: cs) = (c :: word) :: rest := by
  rw [words, h]
  simp only [Bool.false_eq_true, if_false]
  split
  · exact ⟨[], _, rfl⟩
  · cases words cs with
    | nil => exact ⟨[], [], rfl⟩
    | cons word rest => exact ⟨word, rest, rfl⟩

theorem headD_words (text : List Char) : (words text).headD [] = leadingWord text := by
  induction text with
  | nil => rfl
  | cons c cs ih =>
    cases hc : isBlank c with
    | true =>
      rw [words, if_pos hc, ih, leadingWord, leadingWord, List.dropWhile_cons_of_pos hc]
    | false =>
      have hfirst : leadingWord (c :: cs) = c :: cs.takeWhile (!isBlank ·) := by
        simp [leadingWord, hc]
      rw [words, hc, if_neg Bool.false_ne_true, hfirst]
      -- The word ends with `c` if nothing or a blank follows; else it goes on with the first word of the rest.
      cases cs with
      | nil => rfl
      | cons d ds =>
        cases hd : isBlank d with
        | true => simp [hd]
        | false =>
          have hrest : (words (d :: ds)).headD [] = (d :: ds).takeWhile (!isBlank ·) := by
            rw [ih, leadingWord, List.dropWhile_cons_of_neg (by simp [hd])]
          rw [← hrest]
          simp only [List.head?_cons, Option.all_some, hd, Bool.false_eq_true, if_false]
          cases words (d :: ds) <;> rfl

theorem collapse_eq_nil_iff : collapse text = [] ↔ text.all isBlank := by
  induction text with
  | nil => simp [collapse, words]
  | cons c cs ih =>
    cases hc : isBlank c with
    | true => rw [collapse, words, if_pos hc, List.all_cons, hc, Bool.true_and, ← ih, collapse]
    | false =>
      obtain ⟨word, rest, hwords⟩ := exists_words_cons hc cs
      rw [collapse, hwords, List.all_cons, hc]
      cases rest with
      | nil => simp
      | cons next rest => simp [List.intercalate]

end Bookmarklet.Text
