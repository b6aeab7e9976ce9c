import Mathlib.Data.List.TakeWhile
import Bookmarklet.Text.Blank

/-!
# Texts without the blanks at their ends

Blanks around a text make no difference to what is left of it (`trim_surround`). A text that starts with another
character keeps its start (`trim_cons`), and what does not end in blanks keeps all that stands before it
(`trimEnd_append_of_ne_nil`). Nothing is left of a text exactly if it is blank (`trim_eq_nil_iff`).
-/

namespace Bookmarklet.Text

variable {text before after : List Char}

/-! ## Blanks at the start -/

theorem trimStart_append (h : before.all isBlank) (text : List Char) : trimStart (before ++ text) = trimStart text :=
  List.dropWhile_append_of_pos (List.all_eq_true.1 h)

/-- A text that starts with a character other than a blank keeps its start. -/
theorem trimStart_cons {c : Char} (h : isBlank c = false) (text : List Char) : trimStart (c :: text) = c :: text := by
  rw [trimStart, List.dropWhile_cons, if_neg (by simp [h])]

theorem all_isBlank_trimStart : (trimStart text).all isBlank = text.all isBlank := by
  induction text with
  | nil => rfl
  | cons c cs ih =>
    rw [trimStart, List.dropWhile_cons]
    split
    next hc => rw [List.all_cons, hc, Bool.true_and, ← ih, trimStart]
    next => rfl

/-! ## Blanks at the end -/

theorem trimEnd_eq_nil_iff : trimEnd text = [] ↔ text.all isBlank := by
  induction text with
  | nil => simp [trimEnd]
  | cons c cs ih =>
    rw [trimEnd, List.all_cons, Bool.and_eq_true, ← ih]
    split
    next h => simp [h]
    next h =>
      have hne : trimEnd cs ≠ [] := h
      simp [hne]

theorem trimEnd_append (text : List Char) (h : after.all isBlank) : trimEnd (text ++ after) = trimEnd text := by
  induction text with
  | nil => exact trimEnd_eq_nil_iff.2 h
  | cons c cs ih => rw [List.cons_append, trimEnd, ih, trimEnd]

/-- What does not end in blanks keeps what stands before it. -/
theorem trimEnd_append_of_ne_nil (h : trimEnd text ≠ []) :
    ∀ front : List Char, trimEnd (front ++ text) = front ++ trimEnd text
  | [] => rfl
  | c :: front => by
    rw [List.cons_append, trimEnd, trimEnd_append_of_ne_nil h front, List.cons_append]
    split
    next hnil => exact absurd (List.append_eq_nil_iff.1 hnil).2 h
    next => rfl

/-- Where nothing is blank, nothing is taken away. -/
theorem trimEnd_of_forall (h : ∀ c ∈ text, isBlank c = false) : trimEnd text = text := by
  induction text with
  | nil => rfl
  | cons c cs ih =>
    rw [trimEnd, ih fun d hd => h d (List.mem_cons_of_mem c hd)]
    cases cs with
    | nil => simp [h c List.mem_cons_self]
    | cons d ds => rfl

/-! ## Blanks at either end -/

theorem trim_eq_nil_iff : trim text = [] ↔ text.all isBlank := by
  rw [trim, trimEnd_eq_nil_iff, all_isBlank_trimStart]

/-- Blanks around a text make no difference. -/
theorem trim_surround (hbefore : before.all isBlank) (text : List Char) (hafter : after.all isBlank) :
    trim (before ++ text ++ after) = trim text := by
  rw [List.append_assoc, trim, trimStart_append hbefore, trim]
  by_cases h : text.all isBlank
  · -- nothing is left of either text
    have hall : (text ++ after).all isBlank := by rw [List.all_append, h, hafter, Bool.and_self]
    rw [← trim, ← trim, trim_eq_nil_iff.2 hall, trim_eq_nil_iff.2 h]
  · have hne : ¬(text.dropWhile isBlank).isEmpty := by
      rw [List.isEmpty_iff, List.dropWhile_eq_nil_iff, ← List.all_eq_true]
      exact h
    rw [trimStart, List.dropWhile_append, if_neg hne]
    exact trimEnd_append _ hafter

/-- A text that starts with a character other than a blank is only trimmed at its end. -/
theorem trim_cons {c : Char} (h : isBlank c = false) (text : List Char) : trim (c :: text) = trimEnd (c :: text) := by
  rw [trim, trimStart_cons h]

/-- What is left of a text starts with a character other than a blank. -/
theorem isBlank_of_trim_eq_cons {c : Char} {rest : List Char} (h : trim text = c :: rest) : isBlank c = false := by
  rw [trim] at h
  cases hstart : trimStart text with
  | nil =>
    rw [hstart] at h
    cases h
  | cons d cs =>
    have hd : isBlank d = false := by
      have := List.head?_dropWhile_not isBlank text
      rw [← trimStart, hstart] at this
      simpa using this
    rw [hstart, trimEnd] at h
    split at h
    · rw [hd, if_neg Bool.false_ne_true] at h
      cases h
      exact hd
    · cases h
      exact hd

section Trimmed

variable (h : trim text = text)
include h

/-- A trimmed text has no blanks at its start. -/
theorem trimStart_of_trim : trimStart text = text := by
  cases text with
  | nil => rfl
  | cons c cs => exact trimStart_cons (isBlank_of_trim_eq_cons h) cs

/-- A trimmed text has no blanks at its end. -/
theorem trimEnd_of_trim : trimEnd text = text := by
  rw [trim, trimStart_of_trim h] at h
  exact h

end Trimmed

end Bookmarklet.Text
