import Bookmarklet.Script.Position

/-!
# Places in one source

A text leads from one cursor to another if it is what stands between them (`Cursor.Leads`). The cursors that the start
of a source leads to are places of that source (`Cursor.IsIn`); a place is known by its byte (`Cursor.IsIn.eq_of_byte`).
-/

namespace Bookmarklet.Script

namespace Position

/-- Every character takes up a byte. -/
theorem byte_after (p : Position) (c : Char) : (p.after c).byte = p.byte + c.utf8Size := by
  unfold after
  split
  next h =>
    subst h
    rfl
  next => rfl

theorem le_byte_foldl (text : List Char) (p : Position) : p.byte + text.length ≤ (text.foldl after p).byte := by
  induction text generalizing p with
  | nil => exact Nat.le_refl _
  | cons c text ih =>
    have h := ih (p.after c)
    have hc := c.utf8Size_pos
    rw [byte_after] at h
    simp only [List.foldl_cons, List.length_cons]
    omega

end Position

namespace Cursor

/-- A text stands between two places. -/
structure Leads (a : Cursor) (text : List Char) (b : Cursor) : Prop where
  rest : a.rest = text ++ b.rest
  position : b.position = text.foldl Position.after a.position

section Leads

variable {a b c : Cursor} {s t : List Char}

theorem Leads.refl (a : Cursor) : a.Leads [] a := ⟨rfl, rfl⟩

theorem Leads.trans (h : a.Leads s b) (h' : b.Leads t c) : a.Leads (s ++ t) c where
  rest := by rw [h.rest, h'.rest, List.append_assoc]
  position := by rw [h'.position, h.position, List.foldl_append]

theorem Leads.eq_of_nil (h : a.Leads [] b) : a = b := by
  cases a
  cases b
  obtain ⟨hr, hp⟩ := h
  simp_all

theorem Leads.byte_le (h : a.Leads s b) : a.position.byte + s.length ≤ b.position.byte := by
  rw [h.position]
  exact Position.le_byte_foldl s a.position

/-- What stands before a place that follows, and what stands from there on. -/
theorem Leads.of_append (h : a.Leads (s ++ t) c) : ∃ b, a.Leads s b ∧ b.Leads t c :=
  ⟨⟨s.foldl Position.after a.position, t ++ c.rest⟩, ⟨by rw [h.rest, List.append_assoc], rfl⟩,
    ⟨rfl, by rw [h.position, List.foldl_append]⟩⟩

/-- The end of a text depends on its start. -/
theorem Leads.unique (h : a.Leads s b) (h' : a.Leads s c) : b = c := by
  cases b
  cases c
  obtain ⟨hr, hp⟩ := h
  obtain ⟨hr', hp'⟩ := h'
  rw [hr] at hr'
  simp_all

end Leads

/-- A cursor that moves on passes the characters in between. -/
theorem leads_advance (n : Nat) (c : Cursor) : c.Leads (c.rest.take n) (c.advance n) := by
  induction n generalizing c with
  | zero => exact .refl c
  | succ n ih =>
    obtain ⟨p, rest⟩ := c
    cases rest with
    | nil => exact .refl _
    | cons c cs =>
      have h := ih ⟨p.after c, cs⟩
      exact ⟨congrArg (c :: ·) h.rest, h.position⟩

theorem advance_nil (n : Nat) (p : Position) : advance n ⟨p, []⟩ = ⟨p, []⟩ := by
  cases n <;> rfl

theorem advance_add (m n : Nat) (c : Cursor) : c.advance (m + n) = (c.advance m).advance n := by
  induction m generalizing c with
  | zero =>
    rw [Nat.zero_add]
    rfl
  | succ m ih =>
    obtain ⟨p, rest⟩ := c
    cases rest with
    | nil => rw [advance_nil, advance_nil, advance_nil]
    | cons c cs =>
      rw [show m + 1 + n = m + n + 1 by omega]
      exact ih ⟨p.after c, cs⟩

theorem rest_advance (n : Nat) (c : Cursor) : (c.advance n).rest = c.rest.drop n := by
  have h := (leads_advance n c).rest.symm.trans (List.take_append_drop n c.rest).symm
  exact List.append_cancel_left h

/-! ## Places of a source -/

/-- A place of a source. -/
def IsIn (source : List Char) (c : Cursor) : Prop := ∃ before, (ofText source).Leads before c

section IsIn

variable {source : List Char} {a b : Cursor}

theorem isIn_ofText (source : List Char) : (ofText source).IsIn source := ⟨[], .refl _⟩

theorem IsIn.leads (h : a.IsIn source) {text : List Char} (hl : a.Leads text b) : b.IsIn source := by
  obtain ⟨before, h⟩ := h
  exact ⟨_, h.trans hl⟩

/-- A place is known by its byte. -/
theorem IsIn.eq_of_byte (ha : a.IsIn source) (hb : b.IsIn source) (h : a.position.byte = b.position.byte) : a = b := by
  obtain ⟨s, hs⟩ := ha
  obtain ⟨t, ht⟩ := hb
  have hrest : s ++ a.rest = t ++ b.rest := hs.rest.symm.trans ht.rest
  -- The shorter of the two texts starts the longer one, and what the longer one has more has no bytes.
  rcases List.append_eq_append_iff.1 hrest with ⟨more, rfl, -⟩ | ⟨more, rfl, -⟩
  · obtain ⟨c, hc, hmore⟩ := ht.of_append
    rw [← hs.unique hc] at hmore
    have := hmore.byte_le
    have hnil : more = [] := List.eq_nil_of_length_eq_zero (by omega)
    rw [hnil] at hmore
    exact hmore.eq_of_nil
  · obtain ⟨c, hc, hmore⟩ := hs.of_append
    rw [← ht.unique hc] at hmore
    have := hmore.byte_le
    have hnil : more = [] := List.eq_nil_of_length_eq_zero (by omega)
    rw [hnil] at hmore
    exact hmore.eq_of_nil.symm

end IsIn

end Cursor
end Bookmarklet.Script
