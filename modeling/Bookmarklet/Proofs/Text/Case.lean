import Mathlib
import Bookmarklet.Text.Case

/-!
# Forms of characters

A character that is no letter has no other form than itself.
-/

namespace Bookmarklet.Text

/-- Only letters have capitals. -/
theorem eq_of_toLower_eq {c d : Char} (hd : d.isAlpha = false) (h : c.toLower = d) : c = d := by
  have hc : c.isUpper = false := by
    rw [← h, Char.isAlpha_toLower_eq_isAlpha, Char.isAlpha, Bool.or_eq_false_iff] at hd
    exact hd.1
  rwa [Char.toLower_eq_of_not_isUpper (by simp [hc])] at h

/-- A character other than letters is its only form. -/
theorem eq_of_foldsTo {c d : Char} (hc : c.isAlpha = false) (h : foldsTo c d) : d = c := by
  simp only [foldsTo, Bool.or_eq_true, Bool.and_eq_true, beq_iff_eq] at h
  rcases h with (h | ⟨rfl, -⟩) | ⟨rfl, -⟩
  · exact eq_of_toLower_eq hc h.symm
  · cases hc
  · cases hc

end Bookmarklet.Text
