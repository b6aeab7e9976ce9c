import Bookmarklet.Proofs.Wire

/-!
# What a record loses

A record is taken for a response by its code, its explanation or its reason, and all other fields but the warnings have
to be empty. The record of the response is that of the sender, but for the warnings (`Response.ofRecord_eq_ok_iff`):
code without warnings gets none, and warnings that come with an explanation are dropped. So a record that is read as a
response is kept in it exactly if it has no warnings beside an explanation; and of the records that fill more than one
group of fields, those with an explanation and warnings alone are not refused (`Response.ofJson_record`).
-/

namespace Bookmarklet.Response

namespace Record

/-- All that a record tells is in another one. -/
structure KeptIn (w w' : Record) : Prop where
  blocked : w'.blocked = w.blocked
  code : ∀ script, w.code = some script → w'.code = some script
  warnings : ∀ warnings, w.warnings = some warnings → w'.warnings = some warnings
  explanation : ∀ lines, w.explanation = some lines → w'.explanation = some lines
  reason : ∀ reason, w.reason = some reason → w'.reason = some reason

/-- A record that fills fields of code. -/
def TellsCode (w : Record) : Prop := w.code.isSome ∨ w.warnings.isSome

/-- A record that fills the field of an explanation. -/
def TellsExplanation (w : Record) : Prop := w.explanation.isSome

/-- A record that fills fields of a refusal. -/
def TellsBlock (w : Record) : Prop := w.blocked ∨ w.reason.isSome

/-- A record that fills fields of more than one group. -/
def IsMixed (w : Record) : Prop :=
  w.TellsCode ∧ w.TellsExplanation ∨ w.TellsCode ∧ w.TellsBlock ∨ w.TellsExplanation ∧ w.TellsBlock

/-- An explanation with warnings, and nothing else. -/
def IsWarnedExplanation (w : Record) : Prop :=
  w.warnings.isSome ∧ w.explanation.isSome ∧ w.code = none ∧ w.blocked = false ∧ w.reason = none

/-- A record with the warnings that a response has: code has a list, if only an empty one, an explanation has none. -/
def settled (w : Record) : Record :=
  { w with
    warnings :=
      if w.code.isSome then some (w.warnings.getD [])
      else if w.explanation.isSome then none
      else w.warnings }

section Settled

variable (w : Record)

/-- Warnings are kept unless they come with an explanation alone. -/
theorem keptIn_settled_iff :
    w.KeptIn w.settled ↔ ¬(w.warnings.isSome ∧ w.explanation.isSome ∧ w.code = none) := by
  obtain ⟨code, warnings, explanation, blocked, reason⟩ := w
  constructor
  · rintro h ⟨hwarnings, hexplanation, hcode⟩
    obtain ⟨items, rfl⟩ := Option.isSome_iff_exists.1 hwarnings
    have hkept := h.warnings items rfl
    simp only at hexplanation hcode
    simp [settled, hexplanation, hcode] at hkept
  · intro h
    refine ⟨rfl, fun _ => id, fun items hitems => ?_, fun _ => id, fun _ => id⟩
    simp only at hitems
    cases code with
    | some script => simp [settled, hitems]
    | none =>
      cases explanation with
      | some lines => simp [hitems] at h
      | none => simp [settled, hitems]

theorem keptIn_settled_of_no_warnings : KeptIn { w with warnings := none } w.settled :=
  ⟨rfl, fun _ => id, nofun, fun _ => id, fun _ => id⟩

end Settled

end Record

section Records

variable {w : Record} {r : Response}

/-- The warnings of the sender make no difference where they are dropped. -/
theorem ofRecord_settled (w : Record) : ofRecord w.settled = ofRecord w := by
  obtain ⟨code, warnings, explanation, blocked, reason⟩ := w
  cases code with
  | some script => cases warnings <;> simp [ofRecord, Record.settled]
  | none =>
    cases explanation with
    | some lines => simp [ofRecord, Record.settled]
    | none => simp [Record.settled]

/-- A response is that of a record if the record with the warnings of a response is its own. -/
theorem ofRecord_eq_ok_iff : ofRecord w = .ok r ↔ w.settled = r.toRecord := by
  constructor
  · intro h
    obtain ⟨code, warnings, explanation, blocked, reason⟩ := w
    cases blocked with
    | true =>
      simp only [ofRecord, if_true] at h
      split at h
      next => cases h
      next hempty =>
        -- a refusal has no other field than its reason
        simp only [Bool.or_eq_true, not_or, Bool.not_eq_true, Option.isSome_eq_false_iff, Option.isNone_iff_eq_none]
          at hempty
        obtain ⟨⟨rfl, rfl⟩, rfl⟩ := hempty
        cases reason with
        | none => cases h
        | some reason =>
          cases h
          rfl
    | false =>
      cases reason with
      | some reason => cases h
      | none =>
        cases code with
        | some script =>
          cases explanation with
          | some lines => cases h
          | none =>
            cases h
            rfl
        | none =>
          cases explanation with
          | some lines =>
            cases h
            rfl
          | none => cases h
  · intro h
    rw [← ofRecord_settled, h, ofRecord_toRecord]

/-- A record is read as what its fields make. -/
theorem ofJson_toJson_record (w : Record) : ofJson w.toJson = (ofRecord w).mapError .shape := by
  have hfields : Record.ofJson w.toJson = .ok w := Record.ofJson_members (.refl _)
  simp only [ofJson, hfields]
  cases ofRecord w <;> rfl

theorem ofJson_toJson_eq_ok_iff : ofJson w.toJson = .ok r ↔ w.settled = r.toRecord := by
  rw [← ofRecord_eq_ok_iff, ofJson_toJson_record]
  cases ofRecord w <;> simp [Except.mapError]

/-- A record that is accepted with an explanation has neither code nor anything of a refusal. -/
theorem isWarnedExplanation_iff (h : w.settled = r.toRecord) :
    w.IsWarnedExplanation ↔ w.warnings.isSome ∧ w.explanation.isSome ∧ w.code = none := by
  constructor
  · rintro ⟨hwarnings, hexplanation, hcode, -, -⟩
    exact ⟨hwarnings, hexplanation, hcode⟩
  · rintro ⟨hwarnings, hexplanation, hcode⟩
    have hblocked : w.blocked = r.toRecord.blocked := congrArg (·.blocked) h
    have hreason : w.reason = r.toRecord.reason := congrArg (·.reason) h
    have hlines : w.explanation = r.toRecord.explanation := congrArg (·.explanation) h
    cases r with
    | code script items => simp [hlines, toRecord, Record.blank] at hexplanation
    | explanation lines => exact ⟨hwarnings, hexplanation, hcode, hblocked, hreason⟩
    | blocked reason => simp [hlines, toRecord, Record.blank] at hexplanation

/-- Of the records that fill more than one group of fields, those with an explanation and warnings are accepted. -/
theorem isWarnedExplanation_of_isMixed (h : w.settled = r.toRecord) (hmixed : w.IsMixed) : w.IsWarnedExplanation := by
  obtain ⟨code, warnings, explanation, blocked, reason⟩ := w
  cases r with
  | code script items =>
    simp only [Record.settled, toRecord, Record.blank, Record.mk.injEq] at h
    obtain ⟨rfl, -, rfl, rfl, rfl⟩ := h
    simp [Record.IsMixed, Record.TellsExplanation, Record.TellsBlock] at hmixed
  | explanation lines =>
    simp only [Record.settled, toRecord, Record.blank, Record.mk.injEq] at h
    obtain ⟨rfl, -, rfl, rfl, rfl⟩ := h
    have hwarnings : warnings.isSome := by
      simpa [Record.IsMixed, Record.TellsCode, Record.TellsExplanation, Record.TellsBlock] using hmixed
    exact ⟨hwarnings, rfl, rfl, rfl, rfl⟩
  | blocked reason =>
    simp only [Record.settled, toRecord, Record.blank, Record.mk.injEq] at h
    obtain ⟨rfl, hwarnings, rfl, rfl, rfl⟩ := h
    simp only [Option.isSome_none, Bool.false_eq_true, if_false] at hwarnings
    simp [Record.IsMixed, Record.TellsCode, Record.TellsExplanation, hwarnings] at hmixed

/-- An explanation with warnings is accepted as an explanation. -/
theorem exists_settled_eq_of_isWarnedExplanation (h : w.IsWarnedExplanation) : ∃ r, w.settled = toRecord r := by
  obtain ⟨code, warnings, explanation, blocked, reason⟩ := w
  obtain ⟨-, hexplanation, rfl, rfl, rfl⟩ := h
  obtain ⟨lines, rfl⟩ := Option.isSome_iff_exists.1 hexplanation
  exact ⟨.explanation lines, rfl⟩

end Records

/-- Whatever is read as a response is kept in its record, but for the warnings of an explanation, and these are always
lost. A record that fills more than one group of fields is refused, unless it is an explanation with warnings, and these
are always accepted. -/
theorem ofJson_record (w : Record) :
    (∀ r, ofJson w.toJson = .ok r →
        (w.KeptIn r.toRecord ↔ ¬w.IsWarnedExplanation) ∧ Record.KeptIn { w with warnings := none } r.toRecord)
      ∧ (w.IsMixed → ((∃ r, ofJson w.toJson = .ok r) ↔ w.IsWarnedExplanation)) := by
  simp only [ofJson_toJson_eq_ok_iff]
  refine ⟨fun r h => ?_, fun hmixed => ⟨?_, exists_settled_eq_of_isWarnedExplanation⟩⟩
  · rw [isWarnedExplanation_iff h, ← h]
    exact ⟨w.keptIn_settled_iff, w.keptIn_settled_of_no_warnings⟩
  · rintro ⟨r, h⟩
    exact isWarnedExplanation_of_isMixed h hmixed

/-- The warnings that come with an explanation are lost without a word. -/
theorem not_forall_keptIn :
    ¬∀ (w : Record) (r : Response), ofJson w.toJson = .ok r → w.KeptIn r.toRecord ∧ ¬w.IsMixed := by
  intro h
  have hok : ofJson (Record.toJson { Record.blank with warnings := some ["w"], explanation := some ["x"] })
      = .ok (.explanation ["x"]) := ofJson_toJson_eq_ok_iff.2 rfl
  have hkept := (h _ _ hok).1.warnings ["w"] rfl
  cases hkept

end Bookmarklet.Response
