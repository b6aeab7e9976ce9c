import Mathlib.Data.List.Basic
import Mathlib.Tactic.IntervalCases
import Bookmarklet.Text.Utf8

/-!
# Reading what was written as bytes

`Text.Form value bytes` lists the byte sequences of characters: one to four bytes, none of them longer than it need be,
and none of a surrogate or of a value above the last character. The UTF-8 form of a character is such a sequence
(`Form.ofChar`), and the only one of its value (`Form.encodeChar`). The first byte announces the others
(`exists_form_iff`): bytes complete a character that has begun, or end inside it, or do not continue it (`reach`).

Strict reading takes one sequence off the front (`Form.decodeFrom_append`), or stops there (`decodeFrom_cases`). So it
reads every text from its bytes, and only from these (`decode_eq_ok_iff`).
-/

namespace Bookmarklet.Text

/-- A byte sequence, and the value of the character that it stands for. -/
inductive Form : Nat → List UInt8 → Prop
  | one {a : Nat} (ha : a < 0x80) : Form a [.ofNat a]
  | two {a b : Nat} (ha : 2 ≤ a ∧ a < 32) (hb : b < 64) : Form (a * 64 + b) [.ofNat (a + 0xc0), .ofNat (b + 0x80)]
  | three {a b c : Nat} (ha : a < 16) (hb : b < 64) (hc : c < 64) (hlow : a = 0 → 32 ≤ b) (hhigh : a = 13 → b < 32) :
      Form ((a * 64 + b) * 64 + c) [.ofNat (a + 0xe0), .ofNat (b + 0x80), .ofNat (c + 0x80)]
  | four {a b c d : Nat} (ha : a < 5) (hb : b < 64) (hc : c < 64) (hd : d < 64) (hlow : a = 0 → 16 ≤ b)
      (hhigh : a = 4 → b < 16) :
      Form (((a * 64 + b) * 64 + c) * 64 + d)
        [.ofNat (a + 0xf0), .ofNat (b + 0x80), .ofNat (c + 0x80), .ofNat (d + 0x80)]

/-! ## The bytes of a character -/

section Characters

variable {value : Nat} {bytes : List UInt8}

/-- Only values of characters have a sequence. -/
theorem Form.isValidChar (h : Form value bytes) : value.isValidChar := by
  cases h <;> simp only [Nat.isValidChar] <;> omega

/-- Every value of a character has a sequence. -/
theorem exists_form (h : value.isValidChar) : ∃ bytes, Form value bytes := by
  simp only [Nat.isValidChar] at h
  by_cases h1 : value < 0x80
  · exact ⟨_, .one h1⟩
  by_cases h2 : value < 0x800
  · rw [← Nat.div_add_mod' value 64]
    exact ⟨_, .two (by omega) (by omega)⟩
  by_cases h3 : value < 0x10000
  · rw [← Nat.div_add_mod' value 64, ← Nat.div_add_mod' (value / 64) 64]
    exact ⟨_, .three (by omega) (by omega) (by omega) (by omega) (by omega)⟩
  · rw [← Nat.div_add_mod' value 64, ← Nat.div_add_mod' (value / 64) 64, ← Nat.div_add_mod' (value / 64 / 64) 64]
    exact ⟨_, .four (by omega) (by omega) (by omega) (by omega) (by omega) (by omega)⟩

/-- The sequence of a value is the UTF-8 form of its character. -/
theorem Form.encodeChar (h : Form value bytes) : String.utf8EncodeChar (Char.ofNat value) = bytes := by
  have hvalue : (Char.ofNat value).val.toNat = value := by
    rw [Char.ofNat, dif_pos h.isValidChar]
    rfl
  rw [String.utf8EncodeChar, hvalue]
  cases h with
  | one ha => rw [if_pos (by omega)]
  | two ha hb =>
    rw [if_neg (by omega), if_pos (by omega)]
    simp only [List.cons.injEq, and_true]
    exact ⟨congrArg _ (by omega), congrArg _ (by omega)⟩
  | three ha hb hc hlow hhigh =>
    rw [if_neg (by omega), if_neg (by omega), if_pos (by omega)]
    simp only [List.cons.injEq, and_true]
    exact ⟨congrArg _ (by omega), congrArg _ (by omega), congrArg _ (by omega)⟩
  | four ha hb hc hd hlow hhigh =>
    rw [if_neg (by omega), if_neg (by omega), if_neg (by omega)]
    simp only [List.cons.injEq, and_true]
    exact ⟨congrArg _ (by omega), congrArg _ (by omega), congrArg _ (by omega), congrArg _ (by omega)⟩

/-- The UTF-8 form of a character is the sequence of its value. -/
theorem Form.ofChar (c : Char) : Form c.toNat (String.utf8EncodeChar c) := by
  obtain ⟨bytes, h⟩ := exists_form (show c.toNat.isValidChar from c.valid)
  have hbytes := h.encodeChar
  rw [Char.ofNat_toNat] at hbytes
  rwa [hbytes]

/-- A character of one byte is that byte. -/
theorem utf8EncodeChar_of_lt {c : Char} (h : c.toNat < 0x80) : String.utf8EncodeChar c = [.ofNat c.toNat] := by
  have hle : c.val.toNat ≤ 127 := Nat.le_of_lt_succ h
  rw [String.utf8EncodeChar, if_pos hle, Char.toNat_val]

/-- All bytes of a longer form lie above the characters of one byte. -/
theorem Form.le_of_mem (h : Form value bytes) (hv : 0x80 ≤ value) : ∀ b ∈ bytes, 0x80 ≤ b.toNat := by
  intro b hb
  cases h with
  | one ha => omega
  | two ha =>
    simp only [List.mem_cons, List.not_mem_nil, or_false] at hb
    rcases hb with rfl | rfl <;> rw [UInt8.toNat_ofNat'] <;> omega
  | three ha =>
    simp only [List.mem_cons, List.not_mem_nil, or_false] at hb
    rcases hb with rfl | rfl | rfl <;> rw [UInt8.toNat_ofNat'] <;> omega
  | four ha =>
    simp only [List.mem_cons, List.not_mem_nil, or_false] at hb
    rcases hb with rfl | rfl | rfl | rfl <;> rw [UInt8.toNat_ofNat'] <;> omega

end Characters

/-! ## What single bytes announce -/

section Bytes

variable {a b low high : Nat} {x : UInt8}

theorem lead?_one (ha : a < 0x80) : lead? (.ofNat a) = some ⟨0, a, 0, 0⟩ := by
  have hx : (UInt8.ofNat a).toNat = a := by simp; omega
  simp [lead?, hx, ha]

theorem lead?_two (ha : 2 ≤ a ∧ a < 32) : lead? (.ofNat (a + 0xc0)) = some ⟨1, a, 0x80, 0xbf⟩ := by
  obtain ⟨hlow, hhigh⟩ := ha
  interval_cases a <;> rfl

theorem lead?_three (ha : a < 16) :
    lead? (.ofNat (a + 0xe0)) = some ⟨2, a, if a = 0 then 0xa0 else 0x80, if a = 13 then 0x9f else 0xbf⟩ := by
  interval_cases a <;> rfl

theorem lead?_four (ha : a < 5) :
    lead? (.ofNat (a + 0xf0)) = some ⟨3, a, if a = 0 then 0x90 else 0x80, if a = 4 then 0x8f else 0xbf⟩ := by
  interval_cases a <;> rfl

/-- A byte that starts a character starts one of the four sequences. -/
theorem lead?_cases (h : (lead? x).isSome) :
    (∃ a < 0x80, x = .ofNat a) ∨ (∃ a, (2 ≤ a ∧ a < 32) ∧ x = .ofNat (a + 0xc0)) ∨ (∃ a < 16, x = .ofNat (a + 0xe0))
      ∨ ∃ a < 5, x = .ofNat (a + 0xf0) := by
  have hx : x = .ofNat x.toNat := UInt8.ofNat_toNat.symm
  by_cases h1 : x.toNat < 0x80
  · exact .inl ⟨x.toNat, h1, hx⟩
  by_cases h2 : x.toNat < 0xc2
  · simp [lead?, h1, h2] at h
  by_cases h3 : x.toNat < 0xe0
  · exact .inr (.inl ⟨x.toNat - 0xc0, by omega, by rwa [Nat.sub_add_cancel (by omega)]⟩)
  by_cases h4 : x.toNat < 0xf0
  · exact .inr (.inr (.inl ⟨x.toNat - 0xe0, by omega, by rwa [Nat.sub_add_cancel (by omega)]⟩))
  by_cases h5 : x.toNat < 0xf5
  · exact .inr (.inr (.inr ⟨x.toNat - 0xf0, by omega, by rwa [Nat.sub_add_cancel (by omega)]⟩))
  · simp only [lead?, show ¬x.toNat = 0xe0 by omega, show ¬x.toNat = 0xed by omega, show ¬x.toNat = 0xf0 by omega,
      show ¬x.toNat < 0xf4 by omega, show ¬x.toNat = 0xf4 by omega, h1, h2, h3, h4, if_false, Option.isSome_none,
      Bool.false_eq_true] at h

theorem tail?_ofNat (hb : b < 64) (hlow : low ≤ b + 0x80) (hhigh : b + 0x80 ≤ high) :
    tail? low high (.ofNat (b + 0x80)) = some b := by
  have hx : (UInt8.ofNat (b + 0x80)).toNat = b + 0x80 := UInt8.toNat_ofNat_of_lt (by simp only [UInt8.size]; omega)
  rw [tail?, hx, if_pos (by simp [hlow, hhigh])]
  exact congrArg some (by omega)

/-- A byte that continues a character carries six bits. -/
theorem tail?_eq_some (hlow : 0x80 ≤ low) (hhigh : high ≤ 0xbf) (h : tail? low high x = some b) :
    b < 64 ∧ low ≤ b + 0x80 ∧ b + 0x80 ≤ high ∧ x = .ofNat (b + 0x80) := by
  have hx : x = .ofNat x.toNat := UInt8.ofNat_toNat.symm
  simp only [tail?, Bool.and_eq_true, decide_eq_true_eq, Option.ite_none_right_eq_some, Option.some.injEq] at h
  obtain ⟨hrange, rfl⟩ := h
  rw [show x.toNat % 64 + 0x80 = x.toNat by omega]
  exact ⟨Nat.mod_lt _ (by decide), hrange.1, hrange.2, hx⟩

/-- What a first byte announces is at most three bytes, and there are bytes in the range of the first of them. -/
theorem lead?_bounds {lead : Lead} (h : lead? x = some lead) :
    lead.more ≤ 3 ∧ lead.low ≤ lead.high ∧ lead.high ≤ 0xbf := by
  rcases lead?_cases (Option.isSome_of_eq_some h) with ⟨a, ha, rfl⟩ | ⟨a, ha, rfl⟩ | ⟨a, ha, rfl⟩ | ⟨a, ha, rfl⟩
  · cases (lead?_one ha).symm.trans h
    simp
  · cases (lead?_two ha).symm.trans h
    simp
  · cases (lead?_three ha).symm.trans h
    dsimp only
    split <;> split <;> omega
  · cases (lead?_four ha).symm.trans h
    dsimp only
    split <;> split <;> omega

end Bytes

/-! ## What follows a first byte -/

/-- How far bytes go with a character that has begun. -/
inductive Reach where
  /-- The character is complete. -/
  | complete
  /-- The bytes end inside it. -/
  | cut
  /-- A byte does not continue it. -/
  | broken
  deriving DecidableEq

/-- How far bytes go with a character that so many bytes continue, the first of them in a range. -/
def reach : Nat → Nat → Nat → List UInt8 → Reach
  | 0, _, _, _ => .complete
  | _ + 1, _, _, [] => .cut
  | more + 1, low, high, b :: bytes => if (tail? low high b).isSome then reach more 0x80 0xbf bytes else .broken

section Reach

variable {more low high : Nat} {bytes : List UInt8}

/-- Unless the bytes end inside the character, it makes no difference what follows them. -/
theorem reach_append (h : reach more low high bytes ≠ .cut) (rest : List UInt8) :
    reach more low high (bytes ++ rest) = reach more low high bytes := by
  induction more generalizing low high bytes with
  | zero => simp only [reach]
  | succ more ih =>
    cases bytes with
    | nil => exact absurd rfl h
    | cons b bytes =>
      rw [reach] at h
      rw [List.cons_append, reach, reach]
      split
      next hb => exact ih (by rwa [if_pos hb] at h)
      next => rfl

/-- A character that is complete goes on with a byte that continues it. -/
theorem exists_of_reach_succ (hlow : 0x80 ≤ low) (hhigh : high ≤ 0xbf)
    (h : reach (more + 1) low high bytes = .complete) :
    ∃ b rest, b < 64 ∧ low ≤ b + 0x80 ∧ b + 0x80 ≤ high ∧ bytes = .ofNat (b + 0x80) :: rest
      ∧ reach more 0x80 0xbf rest = .complete := by
  cases bytes with
  | nil => cases h
  | cons x bytes =>
    rw [reach] at h
    split at h
    next hx =>
      obtain ⟨b, hb⟩ := Option.isSome_iff_exists.1 hx
      obtain ⟨hlt, hfrom, hto, rfl⟩ := tail?_eq_some hlow hhigh hb
      exact ⟨b, bytes, hlt, hfrom, hto, rfl, h⟩
    next => cases h

/-- A complete character has its bytes at the front. -/
theorem exists_of_reach_complete (h : reach more low high bytes = .complete) :
    ∃ front rest, bytes = front ++ rest ∧ reach more low high front = .complete ∧ front.length = more := by
  induction more generalizing low high bytes with
  | zero => exact ⟨[], bytes, rfl, rfl, rfl⟩
  | succ more ih =>
    cases bytes with
    | nil => cases h
    | cons b bytes =>
      rw [reach] at h
      split at h
      next hb =>
        obtain ⟨front, rest, rfl, hfront, hlength⟩ := ih h
        exact ⟨b :: front, rest, rfl, by rw [reach, if_pos hb, hfront], by rw [List.length_cons, hlength]⟩
      next => cases h

/-- There are bytes that complete a character. -/
theorem exists_reach_complete (more : Nat) (hlow : low ≤ high) (hhigh : high ≤ 0xbf) :
    ∃ bytes, reach more low high bytes = .complete ∧ bytes.length = more := by
  induction more generalizing low high with
  | zero => exact ⟨[], rfl, rfl⟩
  | succ more ih =>
    obtain ⟨bytes, hbytes, hlength⟩ := ih (by decide : 0x80 ≤ 0xbf) le_rfl
    have hfirst : (tail? low high (.ofNat low)).isSome := by
      have hvalue : (UInt8.ofNat low).toNat = low := UInt8.toNat_ofNat_of_lt (by simp only [UInt8.size]; omega)
      simp [tail?, hvalue, hlow]
    exact ⟨.ofNat low :: bytes, by rw [reach, if_pos hfirst, hbytes], by rw [List.length_cons, hlength]⟩

/-- Bytes that end inside a character can go on to its end. -/
theorem exists_of_reach_cut (hlow : low ≤ high) (hhigh : high ≤ 0xbf) (h : reach more low high bytes = .cut) :
    ∃ rest, reach more low high (bytes ++ rest) = .complete ∧ (bytes ++ rest).length = more := by
  induction more generalizing low high bytes with
  | zero => cases h
  | succ more ih =>
    cases bytes with
    | nil => exact exists_reach_complete (more + 1) hlow hhigh
    | cons b bytes =>
      rw [reach] at h
      split at h
      next hb =>
        obtain ⟨rest, hrest, hlength⟩ := ih (by decide) le_rfl h
        exact ⟨rest, by rw [List.cons_append, reach, if_pos hb, hrest],
          by rw [List.cons_append, List.length_cons, hlength]⟩
      next => cases h

/-- A byte starts a sequence with the bytes that it announces. -/
theorem exists_form_iff {x : UInt8} :
    (∃ value, Form value (x :: bytes))
      ↔ ∃ lead, lead? x = some lead ∧ reach lead.more lead.low lead.high bytes = .complete
        ∧ bytes.length = lead.more := by
  constructor
  · rintro ⟨value, h⟩
    cases h with
    | one ha => exact ⟨_, lead?_one ha, rfl, rfl⟩
    | @two a b ha hb =>
      have htail : tail? 0x80 0xbf (.ofNat (b + 0x80)) = some b := tail?_ofNat hb (by omega) (by omega)
      exact ⟨_, lead?_two ha, by simp only [reach, htail, Option.isSome_some, if_true], rfl⟩
    | @three a b c ha hb hc hlow hhigh =>
      have hsecond :
          tail? (if a = 0 then 0xa0 else 0x80) (if a = 13 then 0x9f else 0xbf) (.ofNat (b + 0x80)) = some b :=
        tail?_ofNat hb (by split <;> omega) (by split <;> omega)
      have hthird : tail? 0x80 0xbf (.ofNat (c + 0x80)) = some c := tail?_ofNat hc (by omega) (by omega)
      exact ⟨_, lead?_three ha, by simp only [reach, hsecond, hthird, Option.isSome_some, if_true], rfl⟩
    | @four a b c d ha hb hc hd hlow hhigh =>
      have hsecond :
          tail? (if a = 0 then 0x90 else 0x80) (if a = 4 then 0x8f else 0xbf) (.ofNat (b + 0x80)) = some b :=
        tail?_ofNat hb (by split <;> omega) (by split <;> omega)
      have hthird : tail? 0x80 0xbf (.ofNat (c + 0x80)) = some c := tail?_ofNat hc (by omega) (by omega)
      have hfourth : tail? 0x80 0xbf (.ofNat (d + 0x80)) = some d := tail?_ofNat hd (by omega) (by omega)
      exact ⟨_, lead?_four ha, by simp only [reach, hsecond, hthird, hfourth, Option.isSome_some, if_true], rfl⟩
  · rintro ⟨lead, hlead, hreach, hlength⟩
    rcases lead?_cases (Option.isSome_of_eq_some hlead) with
      ⟨a, ha, rfl⟩ | ⟨a, ha, rfl⟩ | ⟨a, ha, rfl⟩ | ⟨a, ha, rfl⟩
    · cases (lead?_one ha).symm.trans hlead
      obtain rfl := List.length_eq_zero_iff.1 hlength
      exact ⟨_, .one ha⟩
    · cases (lead?_two ha).symm.trans hlead
      obtain ⟨b, bytes, hb, -, -, rfl, -⟩ := exists_of_reach_succ le_rfl le_rfl hreach
      obtain rfl := List.length_eq_zero_iff.1 (Nat.succ.inj hlength)
      exact ⟨_, .two ha hb⟩
    · cases (lead?_three ha).symm.trans hlead
      dsimp only at hreach
      obtain ⟨b, bytes, hb, hlow, hhigh, rfl, hsecond⟩ :=
        exists_of_reach_succ (by split <;> omega) (by split <;> omega) hreach
      obtain ⟨c, bytes, hc, -, -, rfl, -⟩ := exists_of_reach_succ le_rfl le_rfl hsecond
      obtain rfl := List.length_eq_zero_iff.1 (Nat.succ.inj (Nat.succ.inj hlength))
      exact ⟨_, .three ha hb hc (by split at hlow <;> omega) (by split at hhigh <;> omega)⟩
    · cases (lead?_four ha).symm.trans hlead
      dsimp only at hreach
      obtain ⟨b, bytes, hb, hlow, hhigh, rfl, hsecond⟩ :=
        exists_of_reach_succ (by split <;> omega) (by split <;> omega) hreach
      obtain ⟨c, bytes, hc, -, -, rfl, hthird⟩ := exists_of_reach_succ le_rfl le_rfl hsecond
      obtain ⟨d, bytes, hd, -, -, rfl, -⟩ := exists_of_reach_succ le_rfl le_rfl hthird
      obtain rfl := List.length_eq_zero_iff.1 (Nat.succ.inj (Nat.succ.inj (Nat.succ.inj hlength)))
      exact ⟨_, .four ha hb hc hd (by split at hlow <;> omega) (by split at hhigh <;> omega)⟩

end Reach

/-! ## Reading -/

/-- Reading takes one sequence off the front. -/
theorem Form.decodeFrom_append {value : Nat} {bytes : List UInt8} (h : Form value bytes) (index : Nat)
    (rest : List UInt8) :
    decodeFrom index (bytes ++ rest) = consChar value (decodeFrom (index + bytes.length) rest) := by
  cases h with
  | one ha =>
    simp only [List.cons_append, List.nil_append, decodeFrom, lead?_one ha]
    rfl
  | @two a b ha hb =>
    have htail : tail? 0x80 0xbf (.ofNat (b + 0x80)) = some b := tail?_ofNat hb (by omega) (by omega)
    simp only [List.cons_append, List.nil_append, decodeFrom, lead?_two ha, htail]
    rfl
  | @three a b c ha hb hc hlow hhigh =>
    have hsecond : tail? (if a = 0 then 0xa0 else 0x80) (if a = 13 then 0x9f else 0xbf) (.ofNat (b + 0x80)) = some b :=
      tail?_ofNat hb (by split <;> omega) (by split <;> omega)
    have hthird : tail? 0x80 0xbf (.ofNat (c + 0x80)) = some c := tail?_ofNat hc (by omega) (by omega)
    simp only [List.cons_append, List.nil_append, decodeFrom, lead?_three ha, hsecond, hthird]
    rfl
  | @four a b c d ha hb hc hd hlow hhigh =>
    have hsecond : tail? (if a = 0 then 0x90 else 0x80) (if a = 4 then 0x8f else 0xbf) (.ofNat (b + 0x80)) = some b :=
      tail?_ofNat hb (by split <;> omega) (by split <;> omega)
    have hthird : tail? 0x80 0xbf (.ofNat (c + 0x80)) = some c := tail?_ofNat hc (by omega) (by omega)
    have hfourth : tail? 0x80 0xbf (.ofNat (d + 0x80)) = some d := tail?_ofNat hd (by omega) (by omega)
    simp only [List.cons_append, List.nil_append, decodeFrom, lead?_four ha, hsecond, hthird, hfourth]
    rfl

/-- Where reading stops, counted in bytes. -/
def Utf8Error.index : Utf8Error → Nat
  | invalid index _ => index
  | incomplete index => index

section Reading

variable {index : Nat} {x : UInt8} {bytes : List UInt8}

/-- Reading stops where a character that has begun is not complete, and tells bytes that end inside it from others. -/
theorem decodeFrom_of_reach (index : Nat) {lead : Lead} (hx : lead? x = some lead) :
    (reach lead.more lead.low lead.high bytes = .cut → decodeFrom index (x :: bytes) = .error (.incomplete index))
      ∧ (reach lead.more lead.low lead.high bytes = .broken →
        ∃ length, decodeFrom index (x :: bytes) = .error (.invalid index length)) := by
  obtain ⟨more, share, low, high⟩ := lead
  match more, (lead?_bounds hx).1 with
  | 0, _ => simp [reach]
  | 1, _ =>
    cases bytes with
    | nil => simp [decodeFrom, hx, reach]
    | cons y bytes => cases hy : tail? low high y <;> simp [decodeFrom, hx, reach, hy]
  | 2, _ =>
    cases bytes with
    | nil => simp [decodeFrom, hx, reach]
    | cons y bytes =>
      cases hy : tail? low high y with
      | none => simp [decodeFrom, hx, reach, hy]
      | some second =>
        cases bytes with
        | nil => simp [decodeFrom, hx, reach, hy]
        | cons z bytes => cases hz : tail? 0x80 0xbf z <;> simp [decodeFrom, hx, reach, hy, hz]
  | 3, _ =>
    cases bytes with
    | nil => simp [decodeFrom, hx, reach]
    | cons y bytes =>
      cases hy : tail? low high y with
      | none => simp [decodeFrom, hx, reach, hy]
      | some second =>
        cases bytes with
        | nil => simp [decodeFrom, hx, reach, hy]
        | cons z bytes =>
          cases hz : tail? 0x80 0xbf z with
          | none => simp [decodeFrom, hx, reach, hy, hz]
          | some third =>
            cases bytes with
            | nil => simp [decodeFrom, hx, reach, hy, hz]
            | cons w bytes => cases hw : tail? 0x80 0xbf w <;> simp [decodeFrom, hx, reach, hy, hz, hw]

/-- In a sequence, the first byte announces the others. -/
theorem Form.exists_lead {value : Nat} (h : Form value (x :: bytes)) :
    ∃ lead, lead? x = some lead ∧ reach lead.more lead.low lead.high bytes = .complete ∧ bytes.length = lead.more :=
  exists_form_iff.1 ⟨value, h⟩

theorem Form.exists_cons {value : Nat} {head : List UInt8} (h : Form value head) : ∃ x bytes, head = x :: bytes := by
  cases h <;> exact ⟨_, _, rfl⟩

/-- Whether bytes start with no sequence. -/
def IsStuck (bytes : List UInt8) : Prop := ∀ value head rest, Form value head → bytes ≠ head ++ rest

/-- Bytes that do not complete a character are stuck. -/
theorem isStuck_of_reach (h : ∀ lead, lead? x = some lead → reach lead.more lead.low lead.high bytes ≠ .complete) :
    IsStuck (x :: bytes) := by
  intro value head rest hform heq
  obtain ⟨y, front, rfl⟩ := hform.exists_cons
  rw [List.cons_append] at heq
  obtain ⟨rfl, rfl⟩ := List.cons_eq_cons.1 heq
  obtain ⟨lead, hlead, hfront, -⟩ := hform.exists_lead
  refine h lead hlead ?_
  rw [reach_append (by simp [hfront]), hfront]

/-- Bytes start with a sequence, or reading stops before them, and tells whether they are the start of one. -/
theorem decodeFrom_cases (index : Nat) (x : UInt8) (bytes : List UInt8) :
    (∃ value head rest, Form value head ∧ x :: bytes = head ++ rest)
      ∨ IsStuck (x :: bytes) ∧ ∃ e, decodeFrom index (x :: bytes) = .error e ∧ e.index = index
        ∧ ((∃ index, e = .incomplete index) ↔ ∃ value more, Form value (x :: (bytes ++ more))) := by
  cases hx : lead? x with
  | none =>
    refine .inr ⟨isStuck_of_reach (by simp [hx]), .invalid index 1, by simp only [decodeFrom, hx], rfl, ?_⟩
    constructor
    · simp
    · rintro ⟨value, more, h⟩
      obtain ⟨lead, hlead, -⟩ := h.exists_lead
      cases hx.symm.trans hlead
  | some lead =>
    obtain ⟨-, hlow, hhigh⟩ := lead?_bounds hx
    cases hreach : reach lead.more lead.low lead.high bytes with
    | complete =>
      obtain ⟨front, rest, rfl, hfront, hlength⟩ := exists_of_reach_complete hreach
      obtain ⟨value, h⟩ := exists_form_iff.2 ⟨lead, hx, hfront, hlength⟩
      exact .inl ⟨value, x :: front, rest, h, rfl⟩
    | cut =>
      refine .inr ⟨isStuck_of_reach (by simp [hx, hreach]), .incomplete index, (decodeFrom_of_reach index hx).1 hreach,
        rfl, fun _ => ?_, fun _ => ⟨index, rfl⟩⟩
      obtain ⟨more, hmore, hlength⟩ := exists_of_reach_cut hlow hhigh hreach
      obtain ⟨value, h⟩ := exists_form_iff.2 ⟨lead, hx, hmore, hlength⟩
      exact ⟨value, more, h⟩
    | broken =>
      obtain ⟨length, hread⟩ := (decodeFrom_of_reach index hx).2 hreach
      refine .inr ⟨isStuck_of_reach (by simp [hx, hreach]), .invalid index length, hread, rfl, ?_⟩
      constructor
      · simp
      · rintro ⟨value, more, h⟩
        obtain ⟨lead', hlead, hmore, -⟩ := h.exists_lead
        cases hx.symm.trans hlead
        rw [reach_append (by simp [hreach]), hreach] at hmore
        cases hmore

/-- What can be read starts with a sequence. -/
theorem exists_form_of_decodeFrom {text : List Char} (h : decodeFrom index (x :: bytes) = .ok text) :
    ∃ value head rest, Form value head ∧ x :: bytes = head ++ rest := by
  rcases decodeFrom_cases index x bytes with hform | ⟨-, e, herror, -⟩
  · exact hform
  · cases herror.symm.trans h

end Reading

/-- The bytes of a text are read as the text. -/
theorem decodeFrom_encode (text : List Char) : ∀ index, decodeFrom index (encode text) = .ok text := by
  induction text with
  | nil => exact fun _ => rfl
  | cons c text ih =>
    intro index
    rw [encode, List.flatMap_cons, (Form.ofChar c).decodeFrom_append, ← encode, ih, consChar, Char.ofNat_toNat]
    rfl

/-- Bytes that are read as a text are those of the text. -/
theorem eq_encode_of_decodeFrom {index : Nat} {bytes : List UInt8} {text : List Char}
    (h : decodeFrom index bytes = .ok text) : bytes = encode text := by
  induction hn : bytes.length using Nat.strong_induction_on generalizing index bytes text with
  | _ n ih =>
    cases bytes with
    | nil =>
      cases h
      rfl
    | cons x bytes =>
      obtain ⟨value, head, rest, hform, heq⟩ := exists_form_of_decodeFrom h
      rw [heq, hform.decodeFrom_append, consChar] at h
      cases hrest : decodeFrom (index + head.length) rest with
      | error e => simp [hrest, Except.map] at h
      | ok tail =>
        rw [hrest] at h
        cases h
        have hlt : rest.length < n := by
          have hpos : 0 < head.length := by cases hform <;> simp
          rw [← hn, heq, List.length_append]
          omega
        rw [heq, ih _ hlt hrest rfl, encode, encode, List.flatMap_cons, hform.encodeChar]

/-- Bytes are read as a text just if they are those of the text. -/
theorem decode_eq_ok_iff {bytes : List UInt8} {text : List Char} : decode bytes = .ok text ↔ bytes = encode text :=
  ⟨eq_encode_of_decodeFrom, fun h => h ▸ decodeFrom_encode text 0⟩

end Bookmarklet.Text
