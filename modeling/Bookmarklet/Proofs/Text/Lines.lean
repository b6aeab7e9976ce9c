import Mathlib.Data.List.Basic
import Bookmarklet.Text.Blank

/-!
# Lines of texts that are put together

A text has one line more than line feeds (`length_lines`). A line feed between two texts keeps their lines apart
(`lines_append_newline`), so that parts with line feeds between them have the lines of each, in order
(`lines_intercalate`).
-/

namespace Bookmarklet.Text

variable {text : List Char}

theorem prepend_append (c : Char) {ws : List (List Char)} (h : ws ≠ []) (more : List (List Char)) :
    prepend c (ws ++ more) = prepend c ws ++ more := by
  cases ws with
  | nil => exact absurd rfl h
  | cons w ws => rfl

theorem length_prepend (c : Char) {ws : List (List Char)} (h : ws ≠ []) : (prepend c ws).length = ws.length := by
  cases ws with
  | nil => exact absurd rfl h
  | cons w ws => rfl

/-- Every text has a line. -/
theorem lines_ne_nil (text : List Char) : lines text ≠ [] := by
  cases text with
  | nil => simp [lines]
  | cons c text =>
    rw [lines]
    split
    · simp
    · cases lines text <;> simp [prepend]

/-- A line feed keeps lines apart. -/
theorem lines_append_newline (text more : List Char) : lines (text ++ '\n' :: more) = lines text ++ lines more := by
  induction text with
  | nil => simp [lines]
  | cons c text ih =>
    rw [List.cons_append, lines, lines]
    by_cases hc : c = '\n'
    · simp [hc, ih]
    · simp [hc, ih, prepend_append c (lines_ne_nil text)]

/-- Parts with line feeds between them have the lines of each. -/
theorem lines_intercalate {parts : List (List Char)} (h : parts ≠ []) :
    lines (['\n'].intercalate parts) = parts.flatMap lines := by
  induction parts with
  | nil => exact absurd rfl h
  | cons part parts ih =>
    cases parts with
    | nil => simp
    | cons next parts =>
      rw [List.intercalate_cons_cons, List.append_assoc, List.singleton_append, lines_append_newline,
        ih (List.cons_ne_nil next parts), ← List.flatMap_cons]

/-- There is one line more than line feeds. -/
theorem length_lines (text : List Char) : (lines text).length = text.count '\n' + 1 := by
  induction text with
  | nil => rfl
  | cons c text ih =>
    rw [lines]
    by_cases hc : c = '\n'
    · simp [hc, ih]
    · rw [if_neg hc, length_prepend c (lines_ne_nil text), ih, List.count_cons_of_ne hc]

/-- A text without line feeds is one line. -/
theorem lines_of_notMem (h : '\n' ∉ text) : lines text = [text] := by
  induction text with
  | nil => rfl
  | cons c text ih =>
    rw [List.mem_cons, not_or] at h
    rw [lines, if_neg (Ne.symm h.1), ih h.2, prepend]

end Bookmarklet.Text
