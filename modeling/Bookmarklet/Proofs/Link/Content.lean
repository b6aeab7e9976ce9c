import Bookmarklet.Link.Build
import Bookmarklet.Proofs.Link.Component
import Bookmarklet.Proofs.Script.Blank
import Bookmarklet.Proofs.Script.Emission
import Bookmarklet.Proofs.Text.Trim
import Bookmarklet.Proofs.Text.Words

/-!
# What a link carries

A link carries the minified form of its script if that is accepted and has a token that is not a comment
(`packed_of_minify`), and else the script with its blanks collapsed (`packed_of_forall`). So it is bare, and carries
nothing, exactly if the script is blank and is not minified (`build_eq_scheme_iff`).

The next-line character is blank, but the lexer reads it as a name (`not_forall_bare_iff_blank`). Other blanks are
separators for the lexer, and a script of these has no tokens (`Script.check_separators`). Without that character, a
link is bare exactly if its script is blank, which is when the script is reported as empty (`content_build`).
-/

namespace Bookmarklet

/-! ## Blank scripts -/

namespace Screening

theorem blank_not_mem_syntaxIssues (text : List Char) : .ofError blankMessage ∉ syntaxIssues text := by
  intro h
  unfold syntaxIssues at h
  split at h
  · cases h
  next e _ =>
    have hmessage := congrArg (·.message.toList) (List.mem_singleton.1 h)
    simp [Issue.ofError, blankMessage] at hmessage

theorem blank_not_mem_riskIssues (text : List Char) : .ofError blankMessage ∉ riskIssues text := by
  intro h
  obtain ⟨risk, -, h⟩ := List.mem_flatMap.1 h
  obtain ⟨o, -, heq⟩ := List.mem_map.1 h
  cases congrArg Issue.level heq

/-- A script is reported as empty exactly if it is blank. -/
theorem issues_eq_blank_iff {source : String} :
    issues source = [.ofError blankMessage] ↔ source.toList.all Text.isBlank := by
  rw [← Text.trim_eq_nil_iff, issues]
  split
  next h => exact iff_of_true rfl (List.isEmpty_iff.1 h)
  next h =>
    refine iff_of_false (fun heq => ?_) fun hnil => h (List.isEmpty_iff.2 hnil)
    have hmem : Issue.ofError blankMessage ∈ syntaxIssues source.toList ++ riskIssues source.toList := by simp [heq]
    exact (List.mem_append.1 hmem).elim (blank_not_mem_syntaxIssues _) (blank_not_mem_riskIssues _)

/-- A script without errors is accepted. -/
theorem exists_check_of_issues {source : String} (h : hasErrors (issues source) = false) :
    ∃ t, Script.check source.toList = .ok t := by
  rw [issues] at h
  split at h
  · cases h
  · cases hcheck : Script.check source.toList with
    | ok t => exact ⟨t, rfl⟩
    | error e =>
      have hmem : .ofError ("Syntax error: " ++ e.message) ∈ syntaxIssues source.toList := by
        unfold syntaxIssues
        simp only [hcheck, List.mem_singleton]
      have herror : hasErrors (syntaxIssues source.toList ++ riskIssues source.toList) = true := by
        rw [hasErrors, List.any_eq_true]
        exact ⟨_, List.mem_append_left _ hmem, rfl⟩
      exact absurd herror (Bool.eq_false_iff.1 h)

end Screening

/-! ## The link -/

namespace Link

section Content

variable {source : List Char}

theorem packed_of_minify {minified : List Char} (h : Script.minify source = .ok minified) :
    packed source = minified := by
  unfold packed
  rw [h]

/-- A script that is refused, or has no tokens but comments, is carried with its blanks collapsed. -/
theorem packed_of_forall (h : ∀ t, Script.check source = .ok t → t.hasTokens = false) :
    packed source = Text.collapse source := by
  unfold packed
  split
  next minified hminify =>
    obtain ⟨t, hcheck, htokens, -⟩ := Script.minify_eq_ok_iff.1 hminify
    rw [h t hcheck] at htokens
    cases htokens
  next => rfl

/-- Nothing is carried exactly for blank scripts that are not minified. -/
theorem packed_eq_nil_iff : packed source = [] ↔
    source.all Text.isBlank ∧ ∀ t, Script.check source = .ok t → t.hasTokens = false := by
  by_cases h : ∃ t, Script.check source = .ok t ∧ t.hasTokens
  · obtain ⟨t, hcheck, htokens⟩ := h
    rw [packed_of_minify (Script.minify_eq_ok_iff.2 ⟨t, hcheck, htokens, rfl⟩), Script.emit_eq_nil_iff_of_check hcheck]
    refine iff_of_false (by rw [htokens]; nofun) fun hnone => ?_
    rw [hnone.2 t hcheck] at htokens
    cases htokens
  · have hnone : ∀ t, Script.check source = .ok t → t.hasTokens = false :=
      fun t hcheck => Bool.eq_false_iff.2 fun htokens => h ⟨t, hcheck, htokens⟩
    rw [packed_of_forall hnone, Text.collapse_eq_nil_iff]
    exact (and_iff_left hnone).symm

/-- A blank other than the next-line character separates tokens. -/
theorem contains_separator {c : Char} (h : Text.isBlank c) (hne : c ≠ '\u0085') :
    Script.CharSet.separator.contains c := by
  have hcode : c.toNat ≠ 0x85 := fun heq => hne (Char.toNat_inj.1 heq)
  rw [Text.isBlank, List.any_eq_true] at h
  obtain ⟨⟨low, high⟩, hrange, hc⟩ := h
  simp only [Text.blankRanges, List.mem_cons, Prod.mk.injEq, List.not_mem_nil, or_false] at hrange
  simp only [Script.CharSet.separator, Script.CharSet.contains, List.any_cons, Bool.or_eq_true, Bool.and_eq_true,
    Nat.ble_eq]
  simp only [Bool.and_eq_true, decide_eq_true_eq] at hc
  omega

/-- Blanks other than the next-line character make no tokens. -/
theorem hasTokens_of_isBlank (h : source.all Text.isBlank) (hne : '\u0085' ∉ source) :
    ∀ t, Script.check source = .ok t → t.hasTokens = false := by
  have hseparators : source.all Script.CharSet.separator.contains := by
    rw [List.all_eq_true] at h ⊢
    exact fun c hc => contains_separator (h c hc) fun heq => hne (heq ▸ hc)
  obtain ⟨t, hcheck, htokens⟩ := Script.check_separators hseparators
  intro t' hcheck'
  rw [hcheck] at hcheck'
  cases hcheck'
  exact htokens

end Content

section Build

variable (source : String)

theorem script_build : script (build source).bookmarklet.toList = .ok (packed source.toList) := by
  rw [build, String.toList_ofList, script_ofScript]

theorem build_eq_scheme_iff : (build source).bookmarklet = scheme ↔
    source.toList.all Text.isBlank ∧ ∀ t, Script.check source.toList = .ok t → t.hasTokens = false := by
  have hbare : (build source).bookmarklet = scheme ↔ ofScript (packed source.toList) = ofScript [] := by
    rw [build, ofScript, ofScript, Component.encode, Component.encode, List.flatMap_nil, List.append_nil,
      ← String.toList_inj, String.toList_ofList]
  rw [hbare, ← packed_eq_nil_iff]
  refine ⟨fun h => ?_, fun h => by rw [h]⟩
  have hscript := congrArg script h
  rw [script_ofScript, script_ofScript] at hscript
  exact Except.ok.inj hscript

/-- The link for a script carries its minified form if it is accepted and has a token that is not a comment, and else
the script with its blanks collapsed; a script that is reported without errors is accepted. The link is bare exactly if
the script is blank and not minified. Unless the script holds a next-line character, that is exactly if it is blank, and
that is exactly if all that is reported is that it is. -/
theorem content_build :
    (∀ t, Script.check source.toList = .ok t → t.hasTokens → ∃ minified, Script.minify source.toList = .ok minified
        ∧ script (build source).bookmarklet.toList = .ok minified)
      ∧ ((∀ t, Script.check source.toList = .ok t → t.hasTokens = false) →
        script (build source).bookmarklet.toList = .ok (Text.collapse source.toList))
      ∧ (Screening.hasErrors (Screening.issues source) = false → ∃ t, Script.check source.toList = .ok t)
      ∧ ((build source).bookmarklet = scheme ↔
        source.toList.all Text.isBlank ∧ ∀ t, Script.check source.toList = .ok t → t.hasTokens = false)
      ∧ ('\u0085' ∉ source.toList → ((build source).bookmarklet = scheme ↔ source.toList.all Text.isBlank))
      ∧ (source.toList.all Text.isBlank ↔ Screening.issues source = [.ofError Screening.blankMessage])
      ∧ (build source).warnings = Screening.messages source := by
  refine ⟨fun t hcheck htokens => ?_, fun h => ?_, Screening.exists_check_of_issues, build_eq_scheme_iff source,
    fun hne => ?_, Screening.issues_eq_blank_iff.symm, rfl⟩
  · have hminify := Script.minify_eq_ok_iff.2 ⟨t, hcheck, htokens, rfl⟩
    exact ⟨_, hminify, by rw [script_build, packed_of_minify hminify]⟩
  · rw [script_build, packed_of_forall h]
  · rw [build_eq_scheme_iff]
    exact and_iff_left_of_imp fun h => hasTokens_of_isBlank h hne

/-- The next-line character is blank, and a name for the lexer, so the link for it carries it. -/
theorem not_forall_bare_iff_blank :
    ¬ ∀ source : String, (build source).bookmarklet.toList = scheme.toList ↔ source.toList.all Text.isBlank := by
  intro h
  have hnextLine := h (String.ofList ['\u0085'])
  revert hnextLine
  decide +kernel

end Build
end Link
end Bookmarklet
