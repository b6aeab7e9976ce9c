import Bookmarklet.Config
import Bookmarklet.Proofs.Toml.Section

/-!
# Configurations are read back

The text of a configuration is a document of four sections (`Config.text_eq_document`), whose literals spell the fields
if the numbers can be represented (`Config.wellFormed_sections`). So what is read back is the configuration, and only
then is it checked (`Config.parse_text`).
-/

namespace Bookmarklet.Config

open Toml

/-- The greatest number that TOML can hold, which is two to the power of 63 less one. -/
def greatest : Nat := 9223372036854775807

theorem representable_natCast {n : Nat} : representable n ↔ n ≤ greatest := by
  rw [representable, Bool.and_eq_true, decide_eq_true_iff, decide_eq_true_iff, greatest]
  omega

/-! ## The sections of a configuration -/

/-- How a truth value is written. -/
def flagLiteral (b : Bool) : List Char := (if b then "true" else "false").toList

/-- The sections of a configuration. -/
def sections (c : Config) : List Section :=
  [⟨"guard", "max_chars", Nat.toDigits 10 c.maxChars, .integer c.maxChars⟩,
   ⟨"console", "capacity", Nat.toDigits 10 c.capacity, .integer c.capacity⟩,
   ⟨"assist", "provider", '"' :: c.provider.name.toList ++ ['"'], .string c.provider.name⟩,
   ⟨"preview", "clear_on_reload", flagLiteral c.clearOnReload, .boolean c.clearOnReload⟩]

section Sections

variable (c : Config)

theorem text_eq_document : c.text.toList = document c.sections := by
  unfold text
  simp only [String.toList_append, Nat.toString_eq_ofList_toDigits, String.toList_ofList, sections, document,
    Section.text, flagLiteral, List.append_assoc, List.cons_append, List.nil_append]
  rfl

theorem spells_flag (b : Bool) : Spells (flagLiteral b) (.boolean b) := by
  have hword : (flagLiteral b).all isWordChar := by
    cases b <;> decide
  refine .ofWord ?_ (List.all_eq_true.1 hword) ?_
  · cases b <;> decide
  · cases b <;> rfl

theorem spells_provider (p : Assist.ProviderKind) : Spells ('"' :: p.name.toList ++ ['"']) (.string p.name) := by
  have hall : p.name.toList.all fun c => isPlain c && (c != '"' && c != '\\') := by
    cases p <;> decide
  have hplain : ∀ c ∈ p.name.toList, isPlain c ∧ c ≠ '"' ∧ c ≠ '\\' := fun c hc => by
    simpa using List.all_eq_true.1 hall c hc
  simpa using Spells.quoted hplain

/-- If its numbers can be represented, the sections of a configuration spell it. -/
theorem wellFormed_sections (hm : c.maxChars ≤ greatest) (hc : c.capacity ≤ greatest) :
    ∀ s ∈ c.sections, s.WellFormed := by
  simp only [sections, List.forall_mem_cons, List.not_mem_nil, false_imp_iff, implies_true, and_true]
  refine ⟨⟨?_, ?_, .numeral (representable_natCast.2 hm)⟩, ⟨?_, ?_, .numeral (representable_natCast.2 hc)⟩,
    ⟨?_, ?_, spells_provider _⟩, ⟨?_, ?_, spells_flag _⟩⟩ <;> simp only <;> decide

/-- The table of the sections of a configuration is decoded to it. -/
theorem ofTable_sections : ofTable (c.sections.map Section.entry) = some c := by
  have hprovider : provider? (.string c.provider.name) = some c.provider := by
    cases c.provider <;> rfl
  simp [ofTable, sections, Section.entry, decodeField, field?, size?, flag?, hprovider, List.lookup_cons]

end Sections

/-- A configuration whose numbers can be represented is read back from its text, and then checked. -/
theorem parse_text {c : Config} (hm : c.maxChars ≤ greatest) (hc : c.capacity ≤ greatest) :
    parse c.text = c.validate.map fun _ => c := by
  have htable : parse? c.text.toList = some (c.sections.map Section.entry) := by
    rw [text_eq_document]
    exact parse?_document (wellFormed_sections c hm hc) (by simp [sections])
  rw [parse, htable, Option.bind_some, ofTable_sections]

theorem render_of_le {c : Config} (hm : c.maxChars ≤ greatest) (hc : c.capacity ≤ greatest) :
    c.render = .ok c.text := by
  rw [render, if_pos]
  rw [representable_natCast.2 hm, representable_natCast.2 hc, Bool.and_self]

theorem render_of_lt {c : Config} (h : greatest < c.maxChars ∨ greatest < c.capacity) :
    c.render = .error .tooGreat := by
  rw [render, if_neg]
  rw [Bool.and_eq_true, representable_natCast, representable_natCast]
  omega

/-- A configuration is read back from its text if its numbers can be represented and are not zero. If one is too great,
no text is written; if one is zero, the text is refused, with the first such field named. -/
theorem parse_render (c : Config) :
    (1 ≤ c.maxChars → c.maxChars ≤ greatest → 1 ≤ c.capacity → c.capacity ≤ greatest →
        ∃ text, c.render = .ok text ∧ parse text = .ok c)
      ∧ (greatest < c.maxChars ∨ greatest < c.capacity → c.render = .error .tooGreat)
      ∧ (c.maxChars ≤ greatest → c.capacity ≤ greatest → c.maxChars = 0 ∨ c.capacity = 0 →
        ∃ text limit, c.render = .ok text ∧ parse text = .error (.zero limit)
          ∧ limit.name = if c.maxChars = 0 then "guard.max_chars" else "console.capacity") := by
  refine ⟨fun hm hmax hc hcap => ⟨_, render_of_le hmax hcap, ?_⟩, render_of_lt, fun hmax hcap hzero => ?_⟩
  · rw [parse_text hmax hcap, validate, if_neg (Nat.ne_of_gt hm), if_neg (Nat.ne_of_gt hc)]
    rfl
  · by_cases hm : c.maxChars = 0
    · refine ⟨_, .maxChars, render_of_le hmax hcap, ?_, by rw [if_pos hm]; rfl⟩
      rw [parse_text hmax hcap, validate, if_pos hm]
      rfl
    · refine ⟨_, .capacity, render_of_le hmax hcap, ?_, by rw [if_neg hm]; rfl⟩
      rw [parse_text hmax hcap, validate, if_neg hm, if_pos (hzero.resolve_left hm)]
      rfl

/-- The greatest and the least number, a number that is too great, and two that are zero. -/
theorem parse_render_samples :
    (∃ text, render ⟨greatest, 1, .mock, true⟩ = .ok text ∧ parse text = .ok ⟨greatest, 1, .mock, true⟩)
      ∧ render ⟨0, greatest + 1, .none, false⟩ = .error .tooGreat
      ∧ ∃ text limit, render ⟨0, 0, .none, false⟩ = .ok text ∧ parse text = .error (.zero limit)
        ∧ limit.name = "guard.max_chars" :=
  ⟨(parse_render ⟨greatest, 1, .mock, true⟩).1 (by decide) (by decide) (by decide) (by decide),
    (parse_render ⟨0, greatest + 1, .none, false⟩).2.1 (.inr (by decide)),
    (parse_render ⟨0, 0, .none, false⟩).2.2 (by decide) (by decide) (.inl rfl)⟩

end Bookmarklet.Config
