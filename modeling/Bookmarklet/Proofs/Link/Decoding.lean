import Bookmarklet.Proofs.Link.Component
import Bookmarklet.Proofs.Text.Malformed

/-!
# Decoding any text

What a text inside a link stands for is said of its bytes: each `%` with two hexadecimal digits behind it is one byte,
every other byte is itself (`Component.unescape`). Characters of more than one byte have no byte of a digit or of `%`
(`Component.exists_utf8EncodeChar_eq_cons`), so that reading the text character by character gives the same bytes
(`Component.bytes_eq_unescape`). The text is decoded if these are well-formed, and else the error tells where they stop
to be so, and whether they end too early (`Component.decode_unescape`).
-/

namespace Bookmarklet.Link.Component

open Text (WellFormed)

/-- The value of a byte that is a hexadecimal digit, in small letters or in capitals. -/
def hexDigit? (b : UInt8) : Option Nat :=
  if 0x30 ≤ b ∧ b ≤ 0x39 then some (b.toNat - 0x30)
  else if 0x41 ≤ b ∧ b ≤ 0x46 then some (b.toNat - 0x41 + 10)
  else if 0x61 ≤ b ∧ b ≤ 0x66 then some (b.toNat - 0x61 + 10)
  else none

/-- The byte that three bytes stand for, if they are `%` and two digits. -/
def tripleByte? (b high low : UInt8) : Option UInt8 :=
  if b = 0x25 then
    match hexDigit? high, hexDigit? low with
    | some i, some j => some (.ofNat (16 * i + j))
    | _, _ => none
  else none

/-- The bytes that bytes stand for, from left to right. -/
def unescape : List UInt8 → List UInt8
  | b :: high :: low :: rest =>
    match tripleByte? b high low with
    | some byte => byte :: unescape rest
    | none => b :: unescape (high :: low :: rest)
  | bytes => bytes

/-! ## Bytes -/

section Bytes

variable {b high low : UInt8} {front : List UInt8}

/-- A byte that starts no triple is itself. -/
theorem unescape_cons (rest : List UInt8)
    (h : ∀ high low more, rest = high :: low :: more → tripleByte? b high low = none) :
    unescape (b :: rest) = b :: unescape rest := by
  match rest with
  | [] => rfl
  | [x] => rfl
  | high :: low :: more => rw [unescape, h high low more rfl]

theorem unescape_cons_of_ne (hb : b ≠ 0x25) (rest : List UInt8) : unescape (b :: rest) = b :: unescape rest :=
  unescape_cons rest fun _ _ _ _ => by rw [tripleByte?, if_neg hb]

/-- Bytes without `%` are themselves. -/
theorem unescape_append (h : 0x25 ∉ front) (rest : List UInt8) : unescape (front ++ rest) = front ++ unescape rest := by
  induction front with
  | nil => rfl
  | cons b front ih =>
    rw [List.mem_cons, not_or] at h
    rw [List.cons_append, unescape_cons_of_ne (Ne.symm h.1), ih h.2, List.cons_append]

end Bytes

/-! ## Characters and their bytes -/

section Characters

variable {c : Char}

/-- Digits are of one byte. -/
theorem hexValue?_of_le (h : 0x80 ≤ c.toNat) : Text.hexValue? c = none := by
  have hle : ∀ d : Char, d.toNat < 0x80 → ¬c ≤ d := by
    intro d hd hcd
    have htoNat := UInt32.le_iff_toNat_le.1 hcd
    simp only [Char.toNat_val] at htoNat
    omega
  have hdigit : c.isDigit = false := by
    rw [Bool.eq_false_iff]
    intro hdigit
    simp only [Char.isDigit, Bool.and_eq_true, decide_eq_true_eq] at hdigit
    exact hle '9' (by decide) hdigit.2
  simp [Text.hexValue?, hdigit, hle 'F' (by decide), hle 'f' (by decide)]

/-- No byte above those of digits is one. -/
theorem hexDigit?_of_le {b : UInt8} (h : 0x80 ≤ b.toNat) : hexDigit? b = none := by
  have hle : ∀ d : UInt8, d.toNat < 0x80 → ¬b ≤ d := by
    intro d hd hbd
    have htoNat := UInt8.le_iff_toNat_le.1 hbd
    omega
  simp [hexDigit?, hle 0x39 (by decide), hle 0x46 (by decide), hle 0x66 (by decide)]

/-- The first byte of a character is a digit if the character is, and a digit has no other byte. -/
theorem exists_utf8EncodeChar_eq_cons (c : Char) :
    ∃ b more, String.utf8EncodeChar c = b :: more ∧ hexDigit? b = Text.hexValue? c ∧ ((Text.hexValue? c).isSome → more = []) := by
  by_cases hlt : c.toNat < 0x80
  · have hall : ∀ n < 0x80, hexDigit? (.ofNat n) = Text.hexValue? (Char.ofNat n) := by decide +kernel
    refine ⟨.ofNat c.toNat, [], Text.utf8EncodeChar_of_lt hlt, ?_, fun _ => rfl⟩
    rw [hall c.toNat hlt, Char.ofNat_toNat]
  · obtain ⟨b, more, heq⟩ := (Text.Form.ofChar c).exists_cons
    have hb : 0x80 ≤ b.toNat := (Text.Form.ofChar c).le_of_mem (by omega) b (by rw [heq]; exact List.mem_cons_self)
    have hc := hexValue?_of_le (Nat.le_of_not_lt hlt)
    exact ⟨b, more, heq, by rw [hexDigit?_of_le hb, hc], by simp [hc]⟩

/-- Only `%` has its byte. -/
theorem percent_notMem (h : c ≠ '%') : 0x25 ∉ String.utf8EncodeChar c := by
  intro hmem
  by_cases hlt : c.toNat < 0x80
  · rw [Text.utf8EncodeChar_of_lt hlt, List.mem_singleton] at hmem
    have hvalue := congrArg UInt8.toNat hmem
    rw [UInt8.toNat_ofNat', Nat.mod_eq_of_lt (by omega)] at hvalue
    exact h (Char.toNat_inj.1 hvalue.symm)
  · have hle := (Text.Form.ofChar c).le_of_mem (by omega) 0x25 hmem
    revert hle
    decide

theorem encode_percent (text : List Char) : Text.encode ('%' :: text) = 0x25 :: Text.encode text := by
  rw [Text.encode_cons]
  rfl

/-- Two digits and their bytes stand for the same byte. -/
theorem tripleByte?_eq {high low : Char} {x y : UInt8} (hx : hexDigit? x = Text.hexValue? high)
    (hy : hexDigit? y = Text.hexValue? low) : tripleByte? 0x25 x y = byte? high low := by
  rw [tripleByte?, if_pos rfl, hx, hy, byte?]
  cases Text.hexValue? high with
  | none => rfl
  | some i => cases Text.hexValue? low <;> rfl

/-- A triple of characters stands for the byte of its bytes. -/
theorem unescape_triple {high low : Char} {byte : UInt8} (h : byte? high low = some byte) (rest : List Char) :
    unescape (Text.encode ('%' :: high :: low :: rest)) = byte :: unescape (Text.encode rest) := by
  obtain ⟨x, more, hx, hhigh, hmore⟩ := exists_utf8EncodeChar_eq_cons high
  obtain ⟨y, more', hy, hlow, hmore'⟩ := exists_utf8EncodeChar_eq_cons low
  have htriple := tripleByte?_eq hhigh hlow
  rw [h] at htriple
  have hdigits : (Text.hexValue? high).isSome ∧ (Text.hexValue? low).isSome := by
    unfold byte? at h
    cases hi : Text.hexValue? high with
    | none => simp [hi] at h
    | some i =>
      cases hj : Text.hexValue? low with
      | none => simp [hi, hj] at h
      | some j => exact ⟨rfl, rfl⟩
  obtain rfl := hmore hdigits.1
  obtain rfl := hmore' hdigits.2
  rw [encode_percent, Text.encode_cons, Text.encode_cons, hx, hy]
  simp only [List.cons_append, List.nil_append, unescape, htriple]

/-- A `%` that starts no triple of characters starts none of bytes. -/
theorem unescape_percent {text : List Char} (h : ∀ high low rest, text = high :: low :: rest → byte? high low = none) :
    unescape (Text.encode ('%' :: text)) = 0x25 :: unescape (Text.encode text) := by
  rw [encode_percent]
  refine unescape_cons _ fun x y bytes hbytes => ?_
  cases text with
  | nil => cases hbytes
  | cons high text =>
    obtain ⟨b, more, hb, hhigh, hmore⟩ := exists_utf8EncodeChar_eq_cons high
    rw [Text.encode_cons, hb, List.cons_append] at hbytes
    obtain ⟨rfl, hbehind⟩ := List.cons_eq_cons.1 hbytes
    cases hi : Text.hexValue? high with
    | none => rw [tripleByte?, if_pos rfl, hhigh, hi]
    | some i =>
      -- the first digit has no other byte, so the second byte begins the next character
      obtain rfl := hmore (by rw [hi]; rfl)
      cases text with
      | nil => cases hbehind
      | cons low rest =>
        obtain ⟨c, more', hc, hlow, -⟩ := exists_utf8EncodeChar_eq_cons low
        rw [List.nil_append, Text.encode_cons, hc, List.cons_append] at hbehind
        obtain ⟨rfl, -⟩ := List.cons_eq_cons.1 hbehind
        rw [tripleByte?_eq hhigh hlow, h high low rest rfl]

end Characters

/-- What a text stands for can be said of its bytes. -/
theorem bytes_eq_unescape (text : List Char) : bytes text = unescape (Text.encode text) := by
  induction text using bytes.induct with
  | case1 high low rest byte h ih =>
    rw [unescape_triple h, ← ih, bytes]
    simp only [h]
  | case2 high low rest h ih =>
    have hnone : ∀ i j more, high :: low :: rest = i :: j :: more → byte? i j = none := by
      rintro i j more ⟨⟩
      exact h
    rw [unescape_percent hnone, ← ih, bytes]
    simp only [h]
    rfl
  | case3 c rest h ih =>
    rw [bytes, ih]
    · by_cases hc : c = '%'
      · subst hc
        rw [unescape_percent fun high low more hrest => absurd hrest (h high low more rfl)]
        rfl
      · rw [Text.encode_cons, unescape_append (percent_notMem hc)]
    · exact h
  | case4 => rfl

/-- A `%` that starts no triple stays, also before one that does. -/
example : bytes "%%41%4".toList = Text.encode "%A%4".toList := by decide +kernel

/-- A text is decoded to the text of the bytes that it stands for. If these are no text, the error tells how long the
longest part at their front is that is well-formed, and they are incomplete if and only if what follows it is the start
of well-formed bytes that go on. -/
theorem decode_unescape (text : List Char) :
    let stated := unescape (Text.encode text)
    (∀ decoded, decode text = .ok decoded ↔ stated = Text.encode decoded)
      ∧ (¬WellFormed stated →
        ∃ e, decode text = .error (.invalidUtf8 e)
          ∧ IsGreatest {n | ∃ front, WellFormed front ∧ front <+: stated ∧ front.length = n} e.index
          ∧ ((∃ index, e = .incomplete index)
            ↔ stated.drop e.index ≠ []
              ∧ ∃ whole, WellFormed whole ∧ stated.drop e.index <+: whole ∧ stated.drop e.index ≠ whole)) := by
  intro stated
  have hbytes : bytes text = stated := bytes_eq_unescape text
  refine ⟨fun decoded => by rw [decode_eq_ok_iff, hbytes], fun h => ?_⟩
  obtain ⟨e, herror, hindex, hincomplete⟩ := Text.exists_error_of_not_wellFormed h
  refine ⟨e, ?_, hindex, hincomplete⟩
  rw [decode, hbytes, herror]

end Bookmarklet.Link.Component
