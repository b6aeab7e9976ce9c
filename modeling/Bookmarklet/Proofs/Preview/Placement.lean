import Bookmarklet.Preview.Document
import Bookmarklet.Proofs.Preview.ScriptData
import Bookmarklet.Proofs.Screening.Lexeme

/-!
# Scripts in their page

A script is escaped by a backslash behind the `<` of every `</script` in it, in any case (`Escapes`,
`escapes_iff_eq_escapeScriptClose`). The escaped text closes no script (`closings_escapeScriptClose`), so there is
nothing to escape in it again.

The page of a script is a template in which marks are replaced. The script comes last and stands for one mark, so marks
in the script itself stay, and the text around it is the same for every script (`document_eq_append`). That text begins
and ends with a line feed where the script stands, and no `</script` reaches over one: the page has those of the
template and no other (`document_placement`).
-/

namespace Bookmarklet

namespace Text

/-- Whether a mark begins nowhere in a text that other text follows. -/
def lacks (mark behind : List Char) : List Char → Bool
  | [] => true
  | c :: cs => !mark.isPrefixOf (c :: (cs ++ behind)) && lacks mark behind cs

/-- Where no mark begins before one, that is the first. -/
theorem replaceFirst_append {mark back : List Char} (hmark : mark ≠ []) (new : List Char) :
    ∀ {front : List Char}, lacks mark (mark ++ back) front →
      replaceFirst mark new (front ++ (mark ++ back)) = front ++ (new ++ back)
  | [], _ => by
    obtain ⟨c, cs, rfl⟩ := List.exists_cons_of_ne_nil hmark
    have hprefix : (c :: cs).isPrefixOf (c :: cs ++ back) := List.isPrefixOf_iff_prefix.2 (List.prefix_append _ _)
    rw [List.nil_append, List.nil_append]
    rw [List.cons_append] at hprefix ⊢
    rw [replaceFirst, if_pos hprefix, ← List.cons_append, List.drop_left]
  | c :: cs, h => by
    rw [lacks, Bool.and_eq_true, Bool.not_eq_true'] at h
    rw [List.cons_append, replaceFirst, if_neg (by simp [h.1]), replaceFirst_append hmark new h.2, List.cons_append]

/-- A text starts with a word in any case if and only if a form of the word is the first part of it. -/
theorem startsWithFolded_iff : ∀ {word text : List Char},
    startsWithFolded word text ↔ ∃ piece rest, text = piece ++ rest ∧ isForm word piece
  | [], text => iff_of_true rfl ⟨[], text, rfl, rfl⟩
  | c :: word, [] => by
    simp only [startsWithFolded, Bool.false_eq_true, false_iff, not_exists, not_and]
    intro piece rest htext hform
    rw [List.append_eq_nil_iff.1 htext.symm |>.1] at hform
    cases hform
  | c :: word, d :: text => by
    rw [startsWithFolded, Bool.and_eq_true, startsWithFolded_iff]
    constructor
    · rintro ⟨hc, piece, rest, rfl, hform⟩
      exact ⟨d :: piece, rest, rfl, by rw [isForm, hc, hform]; rfl⟩
    · rintro ⟨piece, rest, htext, hform⟩
      cases piece with
      | nil => cases hform
      | cons e piece =>
        obtain ⟨rfl, rfl⟩ := List.cons_eq_cons.1 htext
        rw [isForm, Bool.and_eq_true] at hform
        exact ⟨hform.1, piece, rest, rfl, hform.2⟩

end Text

namespace Preview

/-! ## What closes a script -/

/-- The places of a text where `</script` stands, in any case. -/
def closings (text : List Char) : Nat := text.tails.countP closesScript

/-- The name of script elements, in small letters. -/
def scriptName : List Char := ['s', 'c', 'r', 'i', 'p', 't']

section Closings

variable {c : Char} {cs text rest word : List Char}

/-- A text closes a script where it starts if and only if it starts with `</` and the name of script elements. -/
theorem closesScript_iff :
    closesScript text ↔ ∃ word rest, text = '<' :: '/' :: (word ++ rest) ∧ Text.isForm scriptName word := by
  have hmarks : Text.foldsTo '<' '<' ∧ Text.foldsTo '/' '/' := by decide
  constructor
  · intro h
    obtain ⟨more, rfl⟩ := exists_of_closesScript h
    rw [closesScript, scriptClose_eq, Text.startsWithFolded, Text.startsWithFolded, hmarks.1, hmarks.2] at h
    obtain ⟨word, rest, rfl, hword⟩ := Text.startsWithFolded_iff.1 h
    exact ⟨word, rest, rfl, hword⟩
  · rintro ⟨word, rest, rfl, hword⟩
    rw [closesScript, scriptClose_eq, Text.startsWithFolded, Text.startsWithFolded, hmarks.1, hmarks.2]
    exact Text.startsWithFolded_iff.2 ⟨word, rest, rfl, hword⟩

/-- What closes a script is a landmark. -/
theorem closesScript_eq_isAt (text : List Char) :
    closesScript text = Landmark.isAt (scriptClose.map Text.foldsTo) text := by
  rw [closesScript]
  generalize scriptClose = word
  induction word generalizing text with
  | nil => cases text <;> rfl
  | cons c word ih =>
    cases text with
    | nil => rfl
    | cons d text => rw [Text.startsWithFolded, List.map_cons, Landmark.isAt, ih]

/-- No script is closed over the end of a line. -/
theorem closesScript_append_newline (text rest : List Char) :
    closesScript (text ++ '\n' :: rest) = closesScript text := by
  have hstop : ∀ test ∈ scriptClose.map Text.foldsTo, test '\n' = false := by
    rw [scriptClose_eq]
    decide
  simp only [closesScript_eq_isAt]
  rw [Landmark.isAt_append_newline (fun test ht => hstop test (List.mem_of_mem_dropLast ht)),
    Landmark.isAt_append_singleton hstop]

/-- Nor does escaping make a text close a script behind its first character. -/
theorem closesScript_cons_escapeScriptClose (c : Char) (cs : List Char) :
    closesScript (c :: escapeScriptClose cs) = closesScript (c :: cs) := by
  have hname : ∀ test ∈ ['/', 's', 'c', 'r', 'i', 'p', 't'].map Text.foldsTo, test '<' = false := by decide
  have hrest := Landmark.isAt_escapeScriptClose hname cs []
  rw [List.append_nil, List.append_nil] at hrest
  rw [closesScript_eq_isAt, closesScript_eq_isAt, scriptClose_eq, List.map_cons, Landmark.isAt, Landmark.isAt, hrest]

theorem closings_nil : closings [] = 0 := by decide +kernel

theorem closings_cons (c : Char) (cs : List Char) :
    closings (c :: cs) = closings cs + if closesScript (c :: cs) then 1 else 0 := by
  rw [closings, List.tails_cons, List.countP_cons, closings]

/-- The places in two lines are those in each. -/
theorem closings_append_newline (text rest : List Char) :
    closings (text ++ '\n' :: rest) = closings text + closings rest := by
  induction text with
  | nil =>
    have hline := closesScript_append_newline [] rest
    rw [List.nil_append] at hline ⊢
    rw [closings_cons, hline, closings_nil, Nat.zero_add]
    rfl
  | cons c cs ih =>
    have hline := closesScript_append_newline (c :: cs) rest
    rw [List.cons_append] at hline ⊢
    rw [closings_cons, closings_cons, hline, ih]
    omega

/-- An escaped script closes none. -/
theorem closings_escapeScriptClose (text : List Char) : closings (escapeScriptClose text) = 0 := by
  induction text with
  | nil => exact closings_nil
  | cons c cs ih =>
    rw [escapeScriptClose]
    split
    next h =>
      obtain ⟨rest, hrest⟩ := exists_of_closesScript h
      obtain ⟨rfl, rfl⟩ := List.cons_eq_cons.1 hrest
      have hbefore : closesScript ('<' :: '\\' :: escapeScriptClose ('/' :: rest)) = false := by
        rw [Bool.eq_false_iff]
        intro hclose
        obtain ⟨more, hmore⟩ := exists_of_closesScript hclose
        simp at hmore
      have hbehind : closesScript ('\\' :: escapeScriptClose ('/' :: rest)) = false := by
        rw [Bool.eq_false_iff]
        intro hclose
        obtain ⟨more, hmore⟩ := exists_of_closesScript hclose
        simp at hmore
      rw [closings_cons, closings_cons, ih, hbefore, hbehind]
      rfl
    next h =>
      rw [closings_cons, ih, closesScript_cons_escapeScriptClose, if_neg h]

/-- A text that closes no script is not escaped. -/
theorem escapeScriptClose_eq_self (h : closings text = 0) : escapeScriptClose text = text := by
  induction text with
  | nil => rfl
  | cons c cs ih =>
    rw [closings_cons, Nat.add_eq_zero_iff] at h
    have hc : ¬ closesScript (c :: cs) := by
      intro hclose
      rw [if_pos hclose] at h
      cases h.2
    rw [escapeScriptClose, if_neg hc, ih h.1]

end Closings

/-! ## Escaped scripts -/

/-- The second text is the first with a backslash behind the `<` of each `</script`, in any case, from left to right. -/
inductive Escapes : List Char → List Char → Prop
  | nil : Escapes [] []
  | keep {c : Char} {cs out : List Char} (hc : closesScript (c :: cs) = false) (hrest : Escapes cs out) :
    Escapes (c :: cs) (c :: out)
  | escape {word text out : List Char} (hword : Text.isForm scriptName word) (hrest : Escapes text out) :
    Escapes ('<' :: '/' :: (word ++ text)) ('<' :: '\\' :: '/' :: (word ++ out))

section Escapes

variable {text out word : List Char}

/-- A text without `<` is not escaped. -/
theorem escapeScriptClose_append {front : List Char} (h : '<' ∉ front) (text : List Char) :
    escapeScriptClose (front ++ text) = front ++ escapeScriptClose text := by
  induction front with
  | nil => rfl
  | cons c cs ih =>
    rw [List.mem_cons, not_or] at h
    have hc : ¬ closesScript (c :: (cs ++ text)) := by
      intro hclose
      obtain ⟨more, hmore⟩ := exists_of_closesScript hclose
      exact h.1 (List.cons_eq_cons.1 hmore).1.symm
    rw [List.cons_append, escapeScriptClose, if_neg hc, ih h.2, List.cons_append]

/-- What closes a script is escaped behind the `<` alone. -/
theorem escapeScriptClose_closing (hword : Text.isForm scriptName word) (text : List Char) :
    escapeScriptClose ('<' :: '/' :: (word ++ text)) = '<' :: '\\' :: '/' :: (word ++ escapeScriptClose text) := by
  have hletters : word.all Text.isWord := Text.all_isWord_of_isForm (by decide) hword
  have hplain : '<' ∉ '/' :: word := by
    rw [List.mem_cons, not_or]
    refine ⟨by decide, fun hmem => ?_⟩
    exact absurd (List.all_eq_true.1 hletters '<' hmem) (by decide)
  have hclose : closesScript ('<' :: '/' :: (word ++ text)) := closesScript_iff.2 ⟨word, text, rfl, hword⟩
  rw [escapeScriptClose, if_pos hclose]
  exact congrArg ('<' :: '\\' :: ·) (escapeScriptClose_append hplain text)

theorem escapes_escapeScriptClose (text : List Char) : Escapes text (escapeScriptClose text) := by
  match text with
  | [] => exact .nil
  | c :: cs =>
    cases hc : closesScript (c :: cs) with
    | false =>
      rw [escapeScriptClose, if_neg (by simp [hc])]
      exact .keep hc (escapes_escapeScriptClose cs)
    | true =>
      obtain ⟨word, rest, htext, hword⟩ := closesScript_iff.1 hc
      rw [htext, escapeScriptClose_closing hword]
      exact .escape hword (escapes_escapeScriptClose rest)
termination_by text.length
decreasing_by
  · simp
  · rw [htext]
    simp
    omega

/-- Escaping is to put the backslashes in, and nothing else. -/
theorem escapes_iff_eq_escapeScriptClose : Escapes text out ↔ out = escapeScriptClose text := by
  constructor
  · intro h
    induction h with
    | nil => rfl
    | keep hc _ ih => rw [escapeScriptClose, if_neg (by simp [hc]), ih]
    | escape hword _ ih => rw [escapeScriptClose_closing hword, ih]
  · rintro rfl
    exact escapes_escapeScriptClose text

end Escapes

/-! ## The page of a script -/

theorem filledTemplate_eq : filledTemplate = pageBefore.toList ++ (sourceMark.toList ++ pageAfter.toList) := by
  unfold filledTemplate template pageBefore pageAfter linesBefore linesWith linesAfter policyMark channelMark sourceMark
    contentSecurityPolicy channel
  simp only [-String.reduceToList, String.toList_append, String.toList_intercalate, List.map_cons, List.map_nil]
  -- the lines are turned into lists of characters before anything is evaluated
  repeat rw [String.toList_ofList]
  -- equality of lists of this length is too deep to be decided, a test of it is not
  refine eq_of_beq ?_
  decide +kernel

theorem lacks_pageBefore :
    Text.lacks sourceMark.toList (sourceMark.toList ++ pageAfter.toList) pageBefore.toList := by
  unfold pageBefore pageAfter linesBefore linesWith linesAfter sourceMark contentSecurityPolicy channel
  simp only [-String.reduceToList, String.toList_append, String.toList_intercalate, List.map_cons, List.map_nil]
  repeat rw [String.toList_ofList]
  decide +kernel

/-- The page is the same around every script, whatever marks that contains. -/
theorem document_eq_append (source : String) :
    document source = pageBefore ++ String.ofList (escapeScriptClose source.toList) ++ pageAfter := by
  have hmark : sourceMark.toList ≠ [] := by
    rw [sourceMark, String.toList_ofList]
    exact List.cons_ne_nil _ _
  rw [document, filledTemplate_eq, Text.replaceFirst_append hmark _ lacks_pageBefore]
  simp only [String.ofList_append, String.ofList_toList, String.append_assoc]

theorem closings_pageBefore : closings pageBefore.toList = 1 := by
  unfold pageBefore linesBefore linesWith contentSecurityPolicy channel
  simp only [-String.reduceToList, String.toList_append, String.toList_intercalate, List.map_cons, List.map_nil]
  repeat rw [String.toList_ofList]
  decide +kernel

theorem closings_pageAfter : closings pageAfter.toList = 2 := by
  unfold pageAfter linesAfter
  simp only [-String.reduceToList, String.toList_append, String.toList_intercalate, List.map_cons, List.map_nil]
  repeat rw [String.toList_ofList]
  decide +kernel

/-- The page of a script closes scripts where the template does, and nowhere else. -/
theorem closings_document (source : String) :
    closings (document source).toList = closings pageBefore.toList + closings pageAfter.toList := by
  have hnewline : "\n".toList = ['\n'] := String.toList_ofList
  have hbefore : pageBefore.toList = ("\n".intercalate linesBefore).toList ++ '\n' :: [] := by
    rw [pageBefore, String.toList_append, hnewline]
  have hafter : pageAfter.toList = [] ++ '\n' :: ("\n".intercalate linesAfter).toList := by
    rw [pageAfter, String.toList_append, hnewline]
    rfl
  have hpage : (document source).toList = ("\n".intercalate linesBefore).toList
      ++ '\n' :: (escapeScriptClose source.toList ++ '\n' :: ("\n".intercalate linesAfter).toList) := by
    rw [document_eq_append, String.toList_append, String.toList_append, String.toList_ofList, hbefore, hafter]
    simp
  rw [hpage, hbefore, hafter]
  simp only [closings_append_newline, closings_escapeScriptClose, closings_nil]
  omega

/-- An escaped script closes none, is the script but for one backslash in each `</script`, and stays as it is if it is
escaped again. The page of a script has it between two texts that are the same for every script, and `</script` stands
three times in the page: in these two texts. -/
theorem document_placement (source : String) :
    let script := escapeScriptClose source.toList
    closings script = 0 ∧ (∀ out, Escapes source.toList out ↔ out = script) ∧ escapeScriptClose script = script
      ∧ document source = pageBefore ++ String.ofList script ++ pageAfter
      ∧ closings pageBefore.toList = 1 ∧ closings pageAfter.toList = 2 ∧ closings (document source).toList = 3 := by
  intro script
  have hscript : closings script = 0 := closings_escapeScriptClose source.toList
  refine ⟨hscript, fun _ => escapes_iff_eq_escapeScriptClose, escapeScriptClose_eq_self hscript,
    document_eq_append source, closings_pageBefore, closings_pageAfter, ?_⟩
  rw [closings_document, closings_pageBefore, closings_pageAfter]

end Preview
end Bookmarklet
