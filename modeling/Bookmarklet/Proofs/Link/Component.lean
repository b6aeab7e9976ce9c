import Mathlib
import Bookmarklet.Link.Component
import Bookmarklet.Proofs.Text.Utf8

/-!
# Texts inside links, there and back

A text inside a link is canonical if it is made of characters that stand for themselves and of triples `%HH` with
capital digits, and no triple stands for a character that could stand for itself (`Component.Canonical`). Encoding a
text spells its bytes one by one (`encode_eq`), and spelling bytes and reading them from a canonical text are inverse to
each other (`bytes_flatMap_spell`, `Canonical.flatMap_spell_bytes`). Therefore every script can be recovered from its
link, and the canonical texts that can be decoded are exactly the encoded ones, each of the text that it is decoded to
(`script_ofScript_and_encode_iff`).
-/

namespace Bookmarklet.Link
namespace Component

/-- The capital hexadecimal digits. -/
def capital (i : Fin 16) : Char := "0123456789ABCDEF".toList[i]

/-- The characters that may stand for themselves. -/
def unreserved : List Char := "ABCDEFGHIJKLMNOPQRSTUVWXYZabcdefghijklmnopqrstuvwxyz0123456789-_.!~*'()".toList

/-- Characters that stand for themselves, and triples for all other bytes. -/
inductive Canonical : List Char → Prop
  | nil : Canonical []
  | plain {c : Char} {rest : List Char} (hc : c ∈ unreserved) (hr : Canonical rest) : Canonical (c :: rest)
  | triple {rest : List Char} (i j : Fin 16) (hb : Char.ofNat (16 * i + j) ∉ unreserved) (hr : Canonical rest) :
      Canonical ('%' :: capital i :: capital j :: rest)

/-! ## Bytes and their spelling -/

theorem hexDigit_eq_capital (i : Fin 16) : Text.hexDigit 'A' i = capital i := by decide +revert

theorem hexValue?_capital (i : Fin 16) : Text.hexValue? (capital i) = some i.val := by decide +revert

/-- Characters that stand for themselves are of one byte. -/
theorem toNat_lt_of_isUnreserved {c : Char} (h : isUnreserved c) : c.toNat < 0x80 := by
  simp only [isUnreserved, Char.isAlphanum, Char.isAlpha, Char.isUpper, Char.isLower, Char.isDigit, Bool.or_eq_true,
    Bool.and_eq_true, decide_eq_true_eq, List.contains_iff_mem] at h
  rcases h with ((⟨-, h⟩ | ⟨-, h⟩) | ⟨-, h⟩) | h
  · exact lt_of_le_of_lt (UInt32.le_iff_toNat_le.mp h) (by decide)
  · exact lt_of_le_of_lt (UInt32.le_iff_toNat_le.mp h) (by decide)
  · exact lt_of_le_of_lt (UInt32.le_iff_toNat_le.mp h) (by decide)
  · simp only [List.mem_cons, List.not_mem_nil, or_false] at h
    rcases h with rfl | rfl | rfl | rfl | rfl | rfl | rfl | rfl | rfl <;> decide

theorem isUnreserved_iff {c : Char} : isUnreserved c ↔ c ∈ unreserved := by
  constructor
  · intro h
    have hall : ∀ n < 0x80, isUnreserved (Char.ofNat n) → Char.ofNat n ∈ unreserved := by decide +kernel
    rw [← Char.ofNat_toNat c] at h ⊢
    exact hall _ (toNat_lt_of_isUnreserved (by rwa [Char.ofNat_toNat] at h)) h
  · have hall : unreserved.all isUnreserved := by decide +kernel
    exact List.all_eq_true.mp hall c

/-- A character of one byte is that of its byte. -/
theorem ofNat_toNat_ofNat {c : Char} (h : c.toNat < 0x80) : Char.ofNat (UInt8.ofNat c.toNat).toNat = c := by
  rw [UInt8.toNat_ofNat', Nat.mod_eq_of_lt (by omega), Char.ofNat_toNat]

/-- A byte as a character has the byte as its value. -/
theorem toNat_ofNat_toNat (b : UInt8) : (Char.ofNat b.toNat).toNat = b.toNat := by
  have hb : b.toNat < 256 := b.toNat_lt
  rw [Char.ofNat, dif_pos (.inl (by omega))]
  rfl

/-- A byte inside a link: the character that it is, if that stands for itself, and a triple otherwise. -/
def spell (b : UInt8) : List Char :=
  if isUnreserved (Char.ofNat b.toNat) then [Char.ofNat b.toNat] else escape b

/-- The two digits of a byte. -/
theorem escape_eq (b : UInt8) :
    ∃ i j : Fin 16, escape b = ['%', capital i, capital j] ∧ 16 * i.val + j.val = b.toNat := by
  have hb : b.toNat < 256 := b.toNat_lt
  refine ⟨⟨b.toNat / 16, by omega⟩, ⟨b.toNat % 16, by omega⟩, ?_, Nat.div_add_mod _ _⟩
  rw [escape, ← hexDigit_eq_capital, ← hexDigit_eq_capital]

/-- Reading a triple gives its byte. -/
theorem bytes_triple (i j : Fin 16) (rest : List Char) :
    bytes ('%' :: capital i :: capital j :: rest) = .ofNat (16 * i + j) :: bytes rest := by
  have hb : byte? (capital i) (capital j) = some (.ofNat (16 * i + j)) := by
    simp [byte?, hexValue?_capital]
  simp only [bytes, hb]

/-- Reading a character that stands for itself gives its one byte. -/
theorem bytes_plain {c : Char} (h : isUnreserved c) (rest : List Char) :
    bytes (c :: rest) = .ofNat c.toNat :: bytes rest := by
  have hc : c ≠ '%' := by
    rintro rfl
    revert h
    decide
  rw [bytes, Text.utf8EncodeChar_of_lt (toNat_lt_of_isUnreserved h)]
  · rfl
  · rintro _ _ _ rfl _
    exact hc rfl

/-- Spelled bytes are canonical. -/
theorem Canonical.flatMap_spell (bs : List UInt8) : Canonical (bs.flatMap spell) := by
  induction bs with
  | nil => exact .nil
  | cons b bs ih =>
    rw [List.flatMap_cons, spell]
    split
    case isTrue hb => exact .plain (isUnreserved_iff.mp hb) ih
    case isFalse hb =>
      obtain ⟨i, j, heq, hvalue⟩ := escape_eq b
      rw [heq]
      exact .triple i j (by rwa [hvalue, ← isUnreserved_iff]) ih

/-- Spelled bytes are read as they were. -/
theorem bytes_flatMap_spell (bs : List UInt8) : bytes (bs.flatMap spell) = bs := by
  induction bs with
  | nil => rfl
  | cons b bs ih =>
    rw [List.flatMap_cons, spell]
    split
    case isTrue hb =>
      rw [List.singleton_append, bytes_plain hb, ih, toNat_ofNat_toNat, UInt8.ofNat_toNat]
    case isFalse hb =>
      obtain ⟨i, j, heq, hvalue⟩ := escape_eq b
      rw [heq, List.cons_append, List.cons_append, List.cons_append, List.nil_append, bytes_triple, hvalue, ih,
        UInt8.ofNat_toNat]

/-- The bytes of a canonical text are spelled as they stand there. -/
theorem Canonical.flatMap_spell_bytes {text : List Char} (h : Canonical text) : (bytes text).flatMap spell = text := by
  induction h with
  | nil => rfl
  | @plain c rest hc _ ih =>
    rw [← isUnreserved_iff] at hc
    rw [bytes_plain hc, List.flatMap_cons, ih, spell, ofNat_toNat_ofNat (toNat_lt_of_isUnreserved hc),
      if_pos hc, List.singleton_append]
  | @triple rest i j hb _ ih =>
    have hvalue : (UInt8.ofNat (16 * i + j)).toNat = 16 * i + j := by
      rw [UInt8.toNat_ofNat', Nat.mod_eq_of_lt (by omega)]
    rw [bytes_triple, List.flatMap_cons, ih, spell, hvalue, if_neg (by rwa [isUnreserved_iff]), escape, hvalue,
      show (16 * i.val + j) / 16 = i by omega, show (16 * i.val + j) % 16 = j by omega, hexDigit_eq_capital,
      hexDigit_eq_capital]
    rfl

/-! ## Texts -/

/-- A character is spelled byte by byte. -/
theorem encodeChar_eq (c : Char) : encodeChar c = (String.utf8EncodeChar c).flatMap spell := by
  rw [encodeChar]
  by_cases hlt : c.toNat < 0x80
  · rw [Text.utf8EncodeChar_of_lt hlt, List.flatMap_singleton, List.flatMap_singleton, spell, ofNat_toNat_ofNat hlt]
  · rw [if_neg fun h => hlt (toNat_lt_of_isUnreserved h)]
    refine List.flatMap_congr fun b hb => ?_
    have hle : 0x80 ≤ b.toNat := (Text.Form.ofChar c).le_of_mem (by omega) b hb
    rw [spell, if_neg fun h => ?_]
    have hb := toNat_lt_of_isUnreserved h
    rw [toNat_ofNat_toNat] at hb
    omega

/-- A text is spelled byte by byte. -/
theorem encode_eq (text : List Char) : encode text = (Text.encode text).flatMap spell := by
  rw [encode, Text.encode, List.flatMap_assoc]
  exact List.flatMap_congr fun c _ => encodeChar_eq c

/-- A text is decoded just if its bytes are those of the decoded text. -/
theorem decode_eq_ok_iff {text decoded : List Char} :
    decode text = .ok decoded ↔ bytes text = Text.encode decoded := by
  rw [← Text.decode_eq_ok_iff, decode]
  cases Text.decode (bytes text) <;> simp

/-- Decoding takes every encoded text back. -/
theorem decode_encode (text : List Char) : decode (encode text) = .ok text := by
  rw [decode_eq_ok_iff, encode_eq, bytes_flatMap_spell]

/-- A canonical text is the encoded form of what it is decoded to. -/
theorem Canonical.eq_encode {text decoded : List Char} (h : Canonical text) (hd : decode text = .ok decoded) :
    text = encode decoded := by
  rw [encode_eq, ← decode_eq_ok_iff.mp hd, h.flatMap_spell_bytes]

end Component

/-- The script of a link is the one that it was made for. -/
theorem script_ofScript (text : List Char) : script (ofScript text) = .ok text := by
  rw [script, ofScript, if_pos (by simp), List.drop_left, Component.decode_encode]

/-- Every script is recovered from its link; and the canonical texts that can be decoded are exactly the encoded ones,
each the encoded form of the text that it is decoded to. -/
theorem script_ofScript_and_encode_iff :
    (∀ text, script (ofScript text) = .ok text)
      ∧ ∀ text decoded,
        (Component.Canonical text ∧ Component.decode text = .ok decoded) ↔ text = Component.encode decoded := by
  refine ⟨script_ofScript, fun text decoded => ⟨fun h => h.1.eq_encode h.2, ?_⟩⟩
  rintro rfl
  refine ⟨?_, Component.decode_encode decoded⟩
  rw [Component.encode_eq]
  exact .flatMap_spell _

end Bookmarklet.Link
