import Mathlib.Order.Bounds.Basic
import Bookmarklet.Proofs.Text.Utf8

/-!
# Where bytes stop to be text

Bytes that are no text are a text with stuck bytes behind it, where no character starts (`exists_of_decodeFrom_error`).
Reading reports where these begin. No more than the text is well-formed, as bytes can be split into characters in one
way only (`length_encode_le`), so this is where the longest well-formed part ends. And it tells whether the stuck bytes
are the start of a character that goes on, which is to say the start of any text (`exists_form_append_iff`,
`exists_error_of_not_wellFormed`).
-/

namespace Bookmarklet.Text

/-- Whether bytes are those of a text. -/
def WellFormed (bytes : List UInt8) : Prop := ∃ text, bytes = encode text

theorem encode_cons (c : Char) (text : List Char) : encode (c :: text) = String.utf8EncodeChar c ++ encode text := by
  rw [encode, List.flatMap_cons, ← encode]

section Sequences

variable {value value' : Nat} {head head' rest rest' : List UInt8}

/-- Bytes start with one sequence only. -/
theorem Form.eq_of_append_eq (h : Form value head) (h' : Form value' head') (heq : head ++ rest = head' ++ rest') :
    head = head' := by
  obtain ⟨x, front, rfl⟩ := h.exists_cons
  obtain ⟨y, front', rfl⟩ := h'.exists_cons
  rw [List.cons_append, List.cons_append] at heq
  obtain ⟨rfl, hbehind⟩ := List.cons_eq_cons.1 heq
  obtain ⟨lead, hlead, -, hlength⟩ := h.exists_lead
  obtain ⟨lead', hlead', -, hlength'⟩ := h'.exists_lead
  cases hlead.symm.trans hlead'
  rw [(List.append_inj hbehind (hlength.trans hlength'.symm)).1]

/-- No text in front of stuck bytes is left when a longer one is taken off. -/
theorem length_encode_le {text text' : List Char} (hstuck : IsStuck rest')
    (h : encode text ++ rest = encode text' ++ rest') : (encode text).length ≤ (encode text').length := by
  induction text generalizing text' with
  | nil => exact Nat.zero_le _
  | cons c text ih =>
    cases text' with
    | nil =>
      rw [encode_cons, List.append_assoc] at h
      exact absurd h.symm (hstuck _ _ _ (.ofChar c))
    | cons d text' =>
      rw [encode_cons, encode_cons, List.append_assoc, List.append_assoc] at h
      -- the first characters are one sequence, and so the same
      have hchar := (Form.ofChar c).eq_of_append_eq (.ofChar d) h
      rw [hchar] at h
      have hle := ih (List.append_cancel_left h)
      rw [encode_cons, encode_cons, hchar, List.length_append, List.length_append]
      omega

/-- Stuck bytes go on as a character if they go on as any text. -/
theorem exists_form_append_iff (hstuck : IsStuck rest) (hne : rest ≠ []) :
    (∃ value more, Form value (rest ++ more)) ↔ ∃ whole, WellFormed whole ∧ rest <+: whole ∧ rest ≠ whole := by
  constructor
  · rintro ⟨value, more, h⟩
    refine ⟨rest ++ more, ⟨[Char.ofNat value], ?_⟩, List.prefix_append rest more, fun heq => ?_⟩
    · rw [encode_cons, h.encodeChar]
      exact (List.append_nil _).symm
    · rw [← heq] at h
      exact hstuck value rest [] h (List.append_nil rest).symm
  · rintro ⟨whole, ⟨text, rfl⟩, ⟨more, hmore⟩, -⟩
    cases text with
    | nil => exact absurd (List.append_eq_nil_iff.1 hmore).1 hne
    | cons c text =>
      rw [encode_cons, List.append_eq_append_iff] at hmore
      rcases hmore with ⟨behind, hchar, -⟩ | ⟨behind, hrest, -⟩
      · exact ⟨c.toNat, behind, hchar ▸ .ofChar c⟩
      · exact absurd hrest (hstuck _ _ _ (.ofChar c))

end Sequences

/-- Where reading stops, a text ends and stuck bytes begin. -/
theorem exists_of_decodeFrom_error {index : Nat} {bytes : List UInt8} {e : Utf8Error}
    (h : decodeFrom index bytes = .error e) :
    ∃ text rest, bytes = encode text ++ rest ∧ rest ≠ [] ∧ IsStuck rest ∧ e.index = index + (encode text).length
      ∧ ((∃ index, e = .incomplete index) ↔ ∃ value more, Form value (rest ++ more)) := by
  -- reading goes on behind a whole sequence, which has one to four bytes
  induction hn : bytes.length using Nat.strong_induction_on generalizing index bytes with
  | _ n ih =>
    cases bytes with
    | nil => cases h
    | cons x bytes =>
      rcases decodeFrom_cases index x bytes with ⟨value, head, rest, hform, heq⟩ | ⟨hstuck, e', herror, hindex, hcut⟩
      · rw [heq, hform.decodeFrom_append, consChar] at h
        cases hrest : decodeFrom (index + head.length) rest with
        | ok text =>
          rw [hrest] at h
          cases h
        | error e' =>
          rw [hrest] at h
          cases h
          have hlt : rest.length < n := by
            obtain ⟨y, front, rfl⟩ := hform.exists_cons
            rw [← hn, heq, List.length_append, List.length_cons]
            omega
          obtain ⟨text, behind, rfl, hne, hstuck, hindex, hcut⟩ := ih _ hlt hrest rfl
          refine ⟨Char.ofNat value :: text, behind, ?_, hne, hstuck, ?_, hcut⟩
          · rw [heq, encode_cons, hform.encodeChar, List.append_assoc]
          · rw [hindex, encode_cons, hform.encodeChar, List.length_append, Nat.add_assoc]
      · cases herror.symm.trans h
        exact ⟨[], x :: bytes, rfl, List.cons_ne_nil x bytes, hstuck, hindex, hcut⟩

/-- Bytes that are no text are refused where their longest well-formed part ends, and as incomplete if and only if what
follows it is the start of well-formed bytes that go on. -/
theorem exists_error_of_not_wellFormed {bytes : List UInt8} (h : ¬WellFormed bytes) :
    ∃ e, decode bytes = .error e
      ∧ IsGreatest {n | ∃ front, WellFormed front ∧ front <+: bytes ∧ front.length = n} e.index
      ∧ ((∃ index, e = .incomplete index)
        ↔ bytes.drop e.index ≠ []
          ∧ ∃ whole, WellFormed whole ∧ bytes.drop e.index <+: whole ∧ bytes.drop e.index ≠ whole) := by
  cases hread : decode bytes with
  | ok text => exact absurd ⟨text, decode_eq_ok_iff.1 hread⟩ h
  | error e =>
    obtain ⟨text, rest, rfl, hne, hstuck, hindex, hcut⟩ := exists_of_decodeFrom_error hread
    rw [Nat.zero_add] at hindex
    refine ⟨e, rfl, ⟨⟨encode text, ⟨text, rfl⟩, List.prefix_append _ _, hindex.symm⟩, ?_⟩, ?_⟩
    · rintro n ⟨front, ⟨text', rfl⟩, ⟨more, hmore⟩, rfl⟩
      rw [hindex]
      exact length_encode_le hstuck hmore
    · rw [hindex, List.drop_left, hcut, exists_form_append_iff hstuck hne]
      simp [hne]

end Bookmarklet.Text
