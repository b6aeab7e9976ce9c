import Bookmarklet.Proofs.Preview.Placement

/-!
# The script elements of a preview page

A preview page has a script element for the script that it runs, between one that passes the output on and one that
looks for visible output. A browser that reads the page (`Phase.read`) ends the element of the script at the closing
tag that the page has for it, and finds three script elements, unless the script keeps its element open; then the
element does not end at all, and the page has two (`scriptText?_document`).
-/

namespace Bookmarklet.Preview

/-! ## Reading a page -/

/-- Where a page is being read: outside of script elements, in the tag that starts one, or in its text. -/
inductive Phase where
  | markup
  | startTag
  | script (mode : ScriptMode)
  deriving DecidableEq

namespace Phase

/-- Reads a text which more text follows: the phase behind it, and how many script elements begin in it. -/
def read (rest : List Char) : Phase → List Char → Phase × Nat
  | phase, [] => (phase, 0)
  | markup, c :: cs => if scriptStartTag.isAt (c :: (cs ++ rest)) then read rest startTag cs else read rest markup cs
  | startTag, c :: cs =>
    if c = '>' then
      let (behind, count) := read rest (script .plain) cs
      (behind, count + 1)
    else read rest startTag cs
  | script mode, c :: cs =>
    match mode.next (c :: (cs ++ rest)) with
    | some mode => read rest (script mode) cs
    | none => read rest markup cs

end Phase

/-- How many script elements a page has. -/
def scriptCount (page : List Char) : Nat := (Phase.markup.read [] page).2

namespace Phase

theorem read_append (rest more : List Char) (phase : Phase) (text : List Char) :
    phase.read rest (text ++ more)
      = (((phase.read (more ++ rest) text).1.read rest more).1,
        ((phase.read (more ++ rest) text).1.read rest more).2 + (phase.read (more ++ rest) text).2) := by
  induction text generalizing phase with
  | nil => simp [read]
  | cons c cs ih =>
    cases phase with
    | markup =>
      simp only [List.cons_append, read, List.append_assoc]
      split <;> rw [ih]
    | startTag =>
      simp only [List.cons_append, read]
      split
      · simp only [ih, Nat.add_assoc]
      · rw [ih]
    | script mode =>
      simp only [List.cons_append, read, List.append_assoc]
      split <;> rw [ih]

/-- Nothing that pages are read by goes on behind a line feed, so a text that ends with one is read alone. -/
theorem read_append_newline (text rest : List Char) (phase : Phase) :
    phase.read rest (text ++ ['\n']) = phase.read [] (text ++ ['\n']) := by
  induction text generalizing phase with
  | nil =>
    cases phase with
    | markup => rfl
    | startTag => rfl
    | script mode => cases mode <;> rfl
  | cons c cs ih =>
    cases phase with
    | markup =>
      have htag := @Landmark.isAt_append_newline scriptStartTag (by decide) (c :: cs) rest
      simp only [List.cons_append] at htag
      simp only [List.cons_append, read, List.append_assoc, List.nil_append, List.append_nil, htag, ih]
    | startTag => simp only [List.cons_append, read, ih]
    | script mode =>
      have hnext := ScriptMode.next_append_newline (c :: cs) rest mode
      simp only [List.cons_append] at hnext
      simp only [List.cons_append, read, List.append_assoc, List.nil_append, List.append_nil, hnext, ih]

/-- In text that does not end its element, no other one begins. -/
theorem read_script {mode mode' : ScriptMode} {text rest : List Char} (h : mode.after rest text = some mode') :
    (script mode).read rest text = (script mode', 0) := by
  induction text generalizing mode with
  | nil =>
    cases h
    rfl
  | cons c cs ih =>
    simp only [ScriptMode.after, List.cons_append] at h
    obtain ⟨between, hnext, hafter⟩ := Option.bind_eq_some_iff.mp h
    simp only [read, hnext, ih hafter]

end Phase

/-! ## The page of a preview -/

/-- The page up to the element of the script. -/
def pageHead : String := "\n".intercalate linesBefore.dropLast.dropLast ++ "\n    "

/-- What is written before the script in its element. -/
def tryLine : String := "\n      try \x7b\n"

/-- What is written behind the script in its element, to catch its faults. -/
def catchLines : String := "\n      \x7d catch (error) \x7b\n        window.__marklet.fault(error);\n      \x7d\n    "

/-- The text of the element of a script. -/
def guardedScript (source : String) : String :=
  tryLine ++ String.ofList (escapeScriptClose source.toList) ++ catchLines

/-- The page behind the element of the script. -/
def pageFoot : String := "\n    <script>\n      window.__marklet.settle();\n    </script>\n  </body>\n</html>\n"

theorem pageBefore_eq : pageBefore = pageHead ++ "<script>" ++ tryLine := by
  have hlines : linesBefore = linesBefore.dropLast.dropLast ++ ["    <script>", "      try \x7b"] := rfl
  have hne : linesBefore.dropLast.dropLast ≠ [] := by simp [linesBefore, linesWith]
  have hlast : "\n" ++ "\n".intercalate ["    <script>", "      try \x7b"] ++ "\n"
      = "\n    " ++ ("<script>" ++ tryLine) := by decide +kernel
  rw [pageBefore, pageHead, hlines, String.intercalate_append_of_ne_nil hne (by simp)]
  simp only [String.append_assoc] at hlast ⊢
  rw [hlast]
  simp

theorem pageAfter_eq : pageAfter = catchLines ++ ("</script>" ++ pageFoot) := by decide +kernel

/-- The page has an element for the script, with one behind it. -/
theorem document_eq (source : String) :
    document source = pageHead ++ "<script>" ++ guardedScript source ++ "</script>" ++ pageFoot := by
  rw [document_eq_append, pageBefore_eq, pageAfter_eq, guardedScript]
  simp only [String.append_assoc]

/-- Before the script, one element is complete, and that of the script has begun. -/
theorem read_pageBefore (rest : List Char) : Phase.markup.read rest pageBefore.toList = (.script .plain, 2) := by
  have hnewline : "\n".toList = ['\n'] := String.toList_ofList
  rw [pageBefore, String.toList_append, hnewline, Phase.read_append_newline, String.toList_intercalate, hnewline]
  unfold linesBefore linesWith contentSecurityPolicy channel
  simp only [-String.reduceToList, List.map_cons, List.map_nil, String.toList_append]
  -- the lines are turned into lists of characters before anything is evaluated
  repeat rw [String.toList_ofList]
  decide +kernel

/-- Behind the script, its element ends where the page closes it, unless the script leaves it in doubly escaped text. -/
theorem scriptText?_pageAfter (mode : ScriptMode) :
    scriptText? mode pageAfter.toList
      = if mode = .doubleEscaped then none else some (catchLines.toList, ("</script>" ++ pageFoot).toList) := by
  rw [pageAfter_eq, catchLines, pageFoot]
  simp only [-String.reduceToList, String.toList_append]
  repeat rw [String.toList_ofList]
  cases mode <;> decide +kernel

/-- Behind the script, one more element begins, unless that of the script does not end. -/
theorem read_pageAfter (mode : ScriptMode) :
    ((Phase.script mode).read [] pageAfter.toList).2 = if mode = .doubleEscaped then 0 else 1 := by
  rw [pageAfter_eq, catchLines, pageFoot]
  simp only [-String.reduceToList, String.toList_append]
  repeat rw [String.toList_ofList]
  cases mode <;> decide +kernel

section Document

variable (source : String)

/-- A script leaves its element in the mode in which it would be read without closing tags. -/
theorem after_source : ScriptMode.plain.after pageAfter.toList (escapeScriptClose source.toList)
    = some (ScriptMode.plain.passAll source.toList) := by
  have hnewline : "\n".toList = ['\n'] := String.toList_ofList
  rw [pageAfter, String.toList_append, hnewline]
  exact ScriptMode.after_escapeScriptClose source.toList _ .plain

theorem scriptText?_guardedScript :
    scriptText? .plain (guardedScript source ++ "</script>" ++ pageFoot).toList
      = if ScriptMode.plain.passAll source.toList = .doubleEscaped then none
        else some ((guardedScript source).toList, ("</script>" ++ pageFoot).toList) := by
  have htext : (guardedScript source ++ "</script>" ++ pageFoot).toList
      = tryLine.toList ++ (escapeScriptClose source.toList ++ pageAfter.toList) := by
    simp only [guardedScript, pageAfter_eq, String.toList_append, String.toList_ofList, List.append_assoc]
  have htry : ScriptMode.plain.after (escapeScriptClose source.toList ++ pageAfter.toList) tryLine.toList
      = some .plain := by
    rw [tryLine, String.toList_ofList]
    rfl
  rw [htext, scriptText?_append htry, scriptText?_append (after_source source), scriptText?_pageAfter]
  split
  · rfl
  · simp only [Option.map_some, guardedScript, String.toList_append, String.toList_ofList, List.append_assoc]

theorem scriptCount_document :
    scriptCount (document source).toList
      = if ScriptMode.plain.passAll source.toList = .doubleEscaped then 2 else 3 := by
  have htext : (document source).toList
      = pageBefore.toList ++ (escapeScriptClose source.toList ++ pageAfter.toList) := by
    simp only [document_eq_append, String.toList_append, String.toList_ofList, List.append_assoc]
  rw [scriptCount, htext, Phase.read_append, read_pageBefore, Phase.read_append, List.append_nil,
    Phase.read_script (after_source source), read_pageAfter]
  split <;> rfl

/-- The element of a script ends exactly where the page closes it, and the page has three script elements, unless the
script keeps its element open. Then the element never ends, and the page has two. -/
theorem scriptText?_document :
    document source = pageHead ++ "<script>" ++ guardedScript source ++ "</script>" ++ pageFoot
      ∧ (¬ KeepsOpen source.toList →
        scriptText? .plain (guardedScript source ++ "</script>" ++ pageFoot).toList
            = some ((guardedScript source).toList, ("</script>" ++ pageFoot).toList)
          ∧ scriptCount (document source).toList = 3)
      ∧ (KeepsOpen source.toList →
        scriptText? .plain (guardedScript source ++ "</script>" ++ pageFoot).toList = none
          ∧ scriptCount (document source).toList = 2) := by
  have hopen : ScriptMode.plain.passAll source.toList = .doubleEscaped ↔ KeepsOpen source.toList := by
    rw [ScriptMode.passAll_eq_doubleEscaped_iff, ScriptMode.StaysOpen, or_false]
  refine ⟨document_eq source, fun h => ?_, fun h => ?_⟩
  · rw [scriptText?_guardedScript, scriptCount_document, if_neg (mt hopen.mp h), if_neg (mt hopen.mp h)]
    exact ⟨rfl, rfl⟩
  · rw [scriptText?_guardedScript, scriptCount_document, if_pos (hopen.mpr h), if_pos (hopen.mpr h)]
    exact ⟨rfl, rfl⟩

end Document

/-- A comment with a script tag swallows the closing tag of the page, and all that follows it. -/
theorem not_forall_scriptText?_eq_some :
    ¬ ∀ source : String,
      scriptText? .plain (guardedScript source ++ "</script>" ++ pageFoot).toList
          = some ((guardedScript source).toList, ("</script>" ++ pageFoot).toList)
        ∧ scriptCount (document source).toList = 3 := by
  intro h
  have hopen : ScriptMode.plain.passAll "<!--<script>".toList = .doubleEscaped := by
    rw [String.toList_ofList]
    decide
  have hcount := (h "<!--<script>").2
  rw [scriptCount_document, if_pos hopen] at hcount
  cases hcount

end Bookmarklet.Preview
