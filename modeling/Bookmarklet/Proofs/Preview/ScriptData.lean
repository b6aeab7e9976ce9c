import Mathlib.Data.List.Infix
import Bookmarklet.Preview.Markup
import Bookmarklet.Proofs.Text.Case

/-!
# How a page reads its scripts

A page reads the text of a script element in one of three modes (`ScriptMode`). Plain text is escaped from `<!--` on,
and escaped text is doubly escaped from a script tag on; `-->` leads back to plain text. A closing script tag ends the
element, but in doubly escaped text it ends only the double escape (`ScriptMode.next`). The element never ends if no
closing tag does so (`scriptText?`).

A script that is escaped for its element holds no closing tag (`ScriptMode.next_escapeScriptClose`), so it does not end
the element itself (`ScriptMode.after_escapeScriptClose`). But it can leave the element in doubly escaped text, where
the closing tag behind it does not count: this happens exactly if a comment begins in it that does not end, and a script
tag stands in that comment (`ScriptMode.passAll_eq_doubleEscaped_iff`).
-/

namespace Bookmarklet.Preview

/-! ## Landmarks -/

/-- What to look for at a place of a text: tests for the characters there, one for each. -/
abbrev Landmark := List (Char → Bool)

/-- Whether a text starts with a landmark. -/
def Landmark.isAt : Landmark → List Char → Bool
  | [], _ => true
  | test :: tests, c :: cs => test c && isAt tests cs
  | _ :: _, [] => false

/-- Whether a character ends the name of a tag: a blank of ASCII, a slash, or the end of the tag. -/
def endsTagName (c : Char) : Bool := ['\t', '\n', '\x0c', '\r', ' ', '/', '>'].contains c

/-- The start of a tag with the end of its name, in any case of ASCII; the start is written small. -/
def Landmark.tag (start : List Char) : Landmark := start.map (fun c d => c == d.toLower) ++ [endsTagName]

def commentStart : Landmark := [(· == '<'), (· == '!'), (· == '-'), (· == '-')]

def commentEnd : Landmark := [(· == '-'), (· == '-'), (· == '>')]

def scriptStartTag : Landmark := .tag ['<', 's', 'c', 'r', 'i', 'p', 't']

def scriptEndTag : Landmark := .tag ['<', '/', 's', 'c', 'r', 'i', 'p', 't']

/-! ## Modes -/

/-- How the text of a script element is read. -/
inductive ScriptMode where
  | plain | escaped | doubleEscaped
  deriving DecidableEq

namespace ScriptMode

/-- The mode behind the first character of a text; `none` if the element ends where the text starts. -/
def next (text : List Char) : ScriptMode → Option ScriptMode
  | plain =>
    if scriptEndTag.isAt text then none
    else if commentStart.isAt text then some escaped
    else some plain
  | escaped =>
    if scriptEndTag.isAt text then none
    else if commentEnd.isAt text then some plain
    else if scriptStartTag.isAt text then some doubleEscaped
    else some escaped
  | doubleEscaped =>
    if scriptEndTag.isAt text then some escaped
    else if commentEnd.isAt text then some plain
    else some doubleEscaped

/-- The mode behind a text which more text follows; `none` if the element ends before. -/
def after (rest : List Char) (mode : ScriptMode) : List Char → Option ScriptMode
  | [] => some mode
  | c :: cs => (mode.next (c :: cs ++ rest)).bind fun mode => mode.after rest cs

end ScriptMode

/-- The text of a script element up to the tag that ends it, and what follows; `none` if no tag does so. -/
def scriptText? (mode : ScriptMode) : List Char → Option (List Char × List Char)
  | [] => none
  | c :: cs =>
    match mode.next (c :: cs) with
    | none => some ([], c :: cs)
    | some mode => (scriptText? mode cs).map fun (text, rest) => (c :: text, rest)

/-- Text that does not end its element belongs to it. -/
theorem scriptText?_append {mode mode' : ScriptMode} {text rest : List Char} (h : mode.after rest text = some mode') :
    scriptText? mode (text ++ rest) = (scriptText? mode' rest).map fun (more, rest) => (text ++ more, rest) := by
  induction text generalizing mode with
  | nil =>
    cases h
    simp
  | cons c cs ih =>
    simp only [ScriptMode.after] at h
    obtain ⟨between, hnext, hafter⟩ := Option.bind_eq_some_iff.mp h
    rw [List.cons_append] at hnext ⊢
    simp only [scriptText?, hnext, ih hafter, Option.map_map]
    rfl

/-! ## What a landmark sees of a text -/

theorem scriptClose_eq : scriptClose = ['<', '/', 's', 'c', 'r', 'i', 'p', 't'] := String.toList_ofList

/-- What closes a script starts with `</`. -/
theorem exists_of_closesScript {text : List Char} (h : closesScript text) : ∃ rest, text = '<' :: '/' :: rest := by
  rw [closesScript, scriptClose_eq] at h
  match text with
  | [] => cases h
  | [c] => simp [Text.startsWithFolded] at h
  | c :: d :: rest =>
    simp only [Text.startsWithFolded, Bool.and_eq_true] at h
    have hc : c = '<' := Text.eq_of_foldsTo (by decide) h.1
    have hd : d = '/' := Text.eq_of_foldsTo (by decide) h.2.1
    exact ⟨rest, by rw [hc, hd]⟩

/-- A tag with the name of a word starts with the word in any case. -/
theorem startsWithFolded_of_isAt_tag {word : List Char} (hword : '\n' ∉ word) {text rest : List Char}
    (h : (Landmark.tag word).isAt (text ++ '\n' :: rest)) : Text.startsWithFolded word text := by
  induction word generalizing text with
  | nil => cases text <;> rfl
  | cons c word ih =>
    cases text with
    | nil =>
      -- no part of the word is a line feed
      have hc : c ≠ '\n' := fun hc => hword (by simp [hc])
      have hlower : Char.toLower '\n' = '\n' := by decide
      simp [Landmark.tag, Landmark.isAt, hlower, hc] at h
    | cons d text =>
      simp only [Landmark.tag, List.map_cons, List.cons_append, Landmark.isAt, Bool.and_eq_true, beq_iff_eq] at h
      have hrest := ih (fun hmem => hword (List.mem_cons_of_mem _ hmem)) h.2
      simp [Text.startsWithFolded, Text.foldsTo, h.1, hrest]

section Landmarks

variable {tests : Landmark}

/-- A landmark that goes no further than a line feed sees nothing behind one. -/
theorem Landmark.isAt_append_newline (h : ∀ test ∈ tests.dropLast, test '\n' = false) (text rest : List Char) :
    tests.isAt (text ++ '\n' :: rest) = tests.isAt (text ++ ['\n']) := by
  induction text generalizing tests with
  | nil =>
    match tests with
    | [] => rfl
    | [test] => rfl
    | test :: next :: tests =>
      have hstop : test '\n' = false := h test (by simp)
      simp [isAt, hstop]
  | cons c cs ih =>
    match tests with
    | [] => rfl
    | [test] => rfl
    | test :: next :: tests =>
      simp only [List.cons_append, isAt]
      rw [ih fun other hother => h other (by simp [hother])]

/-- A landmark without line feeds sees nothing of one. -/
theorem Landmark.isAt_append_singleton (h : ∀ test ∈ tests, test '\n' = false) (text : List Char) :
    tests.isAt (text ++ ['\n']) = tests.isAt text := by
  induction text generalizing tests with
  | nil =>
    cases tests with
    | nil => rfl
    | cons test tests =>
      have hstop : test '\n' = false := h test List.mem_cons_self
      simp [isAt, hstop]
  | cons c cs ih =>
    cases tests with
    | nil => rfl
    | cons test tests =>
      rw [List.cons_append, isAt, isAt, ih fun other hother => h other (List.mem_cons_of_mem _ hother)]

/-- Where a script is escaped for its element, a landmark without a second `<` sees the script itself. -/
theorem Landmark.isAt_escapeScriptClose (h : ∀ test ∈ tests, test '<' = false) (text rest : List Char) :
    tests.isAt (escapeScriptClose text ++ rest) = tests.isAt (text ++ rest) := by
  induction text generalizing tests with
  | nil => rfl
  | cons c cs ih =>
    cases tests with
    | nil => simp [isAt]
    | cons test tests =>
      rw [escapeScriptClose]
      split
      next hclose =>
        obtain ⟨ds, hcs⟩ := exists_of_closesScript hclose
        have hc : c = '<' := (List.cons_eq_cons.mp hcs).1
        have htest : test c = false := by
          rw [hc]
          exact h test List.mem_cons_self
        simp [isAt, htest]
      next => simp [isAt, ih fun other hother => h other (List.mem_cons_of_mem _ hother)]

/-- A landmark sees no more of an escaped script than of the script, if it starts in both with the same character, goes
no further than a line feed, and has no second `<`. -/
theorem Landmark.isAt_cons_escapeScriptClose (hnewline : ∀ test ∈ tests.dropLast, test '\n' = false)
    (htag : ∀ test ∈ tests.tail, test '<' = false) (c : Char) (cs rest : List Char) :
    tests.isAt (c :: (escapeScriptClose cs ++ '\n' :: rest)) = tests.isAt (c :: (cs ++ ['\n'])) := by
  have hstop : tests.isAt (c :: (cs ++ '\n' :: rest)) = tests.isAt (c :: (cs ++ ['\n'])) := by
    have hsplit := isAt_append_newline hnewline (c :: cs) rest
    rwa [List.cons_append, List.cons_append] at hsplit
  rw [← hstop]
  cases tests with
  | nil => rfl
  | cons test tests =>
    have hrest := isAt_escapeScriptClose htag cs ('\n' :: rest)
    rw [List.tail_cons] at hrest
    rw [isAt, isAt, hrest]

end Landmarks

/-! ## Scripts that are escaped for their element -/

/-- The mode behind the first character of a text that does not start with a closing tag. -/
def ScriptMode.pass (text : List Char) : ScriptMode → ScriptMode
  | plain => if commentStart.isAt text then escaped else plain
  | escaped =>
    if commentEnd.isAt text then plain
    else if scriptStartTag.isAt text then doubleEscaped
    else escaped
  | doubleEscaped => if commentEnd.isAt text then plain else doubleEscaped

/-- The mode behind a line without closing tags. -/
def ScriptMode.passAll (mode : ScriptMode) : List Char → ScriptMode
  | [] => mode
  | c :: cs => (mode.pass (c :: (cs ++ ['\n']))).passAll cs

namespace ScriptMode

/-- Nothing that scripts are read by goes on behind a line feed. -/
theorem next_append_newline (text rest : List Char) (mode : ScriptMode) :
    mode.next (text ++ '\n' :: rest) = mode.next (text ++ ['\n']) := by
  have hclose : scriptEndTag.isAt (text ++ '\n' :: rest) = scriptEndTag.isAt (text ++ ['\n']) :=
    Landmark.isAt_append_newline (by decide) text rest
  have hstart : commentStart.isAt (text ++ '\n' :: rest) = commentStart.isAt (text ++ ['\n']) :=
    Landmark.isAt_append_newline (by decide) text rest
  have hend : commentEnd.isAt (text ++ '\n' :: rest) = commentEnd.isAt (text ++ ['\n']) :=
    Landmark.isAt_append_newline (by decide) text rest
  have htag : scriptStartTag.isAt (text ++ '\n' :: rest) = scriptStartTag.isAt (text ++ ['\n']) :=
    Landmark.isAt_append_newline (by decide) text rest
  cases mode with
  | plain => rw [next, next, hclose, hstart]
  | escaped => rw [next, next, hclose, hend, htag]
  | doubleEscaped => rw [next, next, hclose, hend]

theorem next_eq_pass {text : List Char} (h : scriptEndTag.isAt text = false) (mode : ScriptMode) :
    mode.next text = some (mode.pass text) := by
  cases mode with
  | plain =>
    simp only [next, pass, h, Bool.false_eq_true, if_false]
    split <;> rfl
  | escaped =>
    simp only [next, pass, h, Bool.false_eq_true, if_false]
    split
    · rfl
    · split <;> rfl
  | doubleEscaped =>
    simp only [next, pass, h, Bool.false_eq_true, if_false]
    split <;> rfl

/-- What closes a script is passed without any change of the mode, were it no tag. -/
theorem pass_of_closesScript {text : List Char} (h : closesScript text) (rest : List Char) (mode : ScriptMode) :
    mode.pass (text ++ rest) = mode := by
  obtain ⟨more, rfl⟩ := exists_of_closesScript h
  cases mode <;> rfl

/-- With a backslash behind the `<`, it is no tag. -/
theorem next_tag_backslash (text : List Char) (mode : ScriptMode) : mode.next ('<' :: '\\' :: text) = some mode := by
  cases mode <;> rfl

theorem next_backslash (text : List Char) (mode : ScriptMode) : mode.next ('\\' :: text) = some mode := by
  cases mode <;> rfl

/-- A character of a script that does not close it there. -/
theorem next_escapeScriptClose {c : Char} {cs : List Char} (h : closesScript (c :: cs) = false) (rest : List Char)
    (mode : ScriptMode) :
    mode.next (c :: (escapeScriptClose cs ++ '\n' :: rest)) = some (mode.pass (c :: (cs ++ ['\n']))) := by
  have hstart : commentStart.isAt (c :: (escapeScriptClose cs ++ '\n' :: rest))
      = commentStart.isAt (c :: (cs ++ ['\n'])) :=
    Landmark.isAt_cons_escapeScriptClose (by decide) (by decide) c cs rest
  have hend : commentEnd.isAt (c :: (escapeScriptClose cs ++ '\n' :: rest)) = commentEnd.isAt (c :: (cs ++ ['\n'])) :=
    Landmark.isAt_cons_escapeScriptClose (by decide) (by decide) c cs rest
  have htag : scriptStartTag.isAt (c :: (escapeScriptClose cs ++ '\n' :: rest))
      = scriptStartTag.isAt (c :: (cs ++ ['\n'])) :=
    Landmark.isAt_cons_escapeScriptClose (by decide) (by decide) c cs rest
  have hclose : scriptEndTag.isAt (c :: (escapeScriptClose cs ++ '\n' :: rest)) = false := by
    rw [scriptEndTag, Landmark.isAt_cons_escapeScriptClose (by decide) (by decide), Bool.eq_false_iff]
    intro hat
    have hword : closesScript (c :: cs) := by
      rw [closesScript, scriptClose_eq]
      exact startsWithFolded_of_isAt_tag (by decide) hat
    rw [h] at hword
    cases hword
  rw [next_eq_pass hclose]
  cases mode with
  | plain => rw [pass, pass, hstart]
  | escaped => rw [pass, pass, hend, htag]
  | doubleEscaped => rw [pass, pass, hend]

/-- A script that is escaped for its element does not end it, and leaves it in the mode in which the script itself would
be read if its closing tags were none. -/
theorem after_escapeScriptClose (source rest : List Char) (mode : ScriptMode) :
    mode.after ('\n' :: rest) (escapeScriptClose source) = some (mode.passAll source) := by
  induction source generalizing mode with
  | nil => rfl
  | cons c cs ih =>
    rw [escapeScriptClose, passAll]
    by_cases h : closesScript (c :: cs)
    · obtain ⟨more, hmore⟩ := exists_of_closesScript h
      have hc : c = '<' := (List.cons_eq_cons.mp hmore).1
      have hpass : mode.pass (c :: (cs ++ ['\n'])) = mode := pass_of_closesScript h ['\n'] mode
      subst hc
      simp only [if_pos h, after, List.cons_append, next_tag_backslash, next_backslash, Option.bind_some, ih, hpass]
    · rw [if_neg h]
      simp only [after, List.cons_append, next_escapeScriptClose (Bool.eq_false_iff.mpr h), Option.bind_some, ih]

end ScriptMode

/-! ## Scripts that keep their element open -/

/-- Whether a comment ends somewhere in a text. -/
def EndsComment (text : List Char) : Prop := ∃ rest ∈ text.tails, commentEnd.isAt rest

/-- Whether a script tag stands somewhere in a line. -/
def StartsScript (line : List Char) : Prop := ∃ rest ∈ line.tails, scriptStartTag.isAt (rest ++ ['\n'])

/-- Whether a comment begins in a script, with a script tag in it, that does not end in the script. -/
def KeepsOpen (source : List Char) : Prop :=
  ∃ comment ∈ source.tails, commentStart.isAt comment ∧ ¬ EndsComment comment ∧ StartsScript comment

instance (text : List Char) : Decidable (EndsComment text) :=
  inferInstanceAs (Decidable (∃ rest ∈ text.tails, commentEnd.isAt rest))

instance (line : List Char) : Decidable (StartsScript line) :=
  inferInstanceAs (Decidable (∃ rest ∈ line.tails, scriptStartTag.isAt (rest ++ ['\n'])))

instance : DecidablePred KeepsOpen := fun source =>
  inferInstanceAs (Decidable (∃ comment ∈ source.tails,
    commentStart.isAt comment ∧ ¬ EndsComment comment ∧ StartsScript comment))

section KeepsOpen

variable (c : Char) (cs : List Char)

theorem not_endsComment_nil : ¬ EndsComment [] := by simp [EndsComment, Landmark.isAt, commentEnd]

theorem not_startsScript_nil : ¬ StartsScript [] := by
  simp only [StartsScript, List.tails, List.mem_singleton, exists_eq_left]
  decide

theorem endsComment_cons : EndsComment (c :: cs) ↔ commentEnd.isAt (c :: cs) ∨ EndsComment cs := by
  simp only [EndsComment, List.tails_cons, List.mem_cons, exists_eq_or_imp]

theorem startsScript_cons :
    StartsScript (c :: cs) ↔ scriptStartTag.isAt (c :: (cs ++ ['\n'])) ∨ StartsScript cs := by
  simp only [StartsScript, List.tails_cons, List.mem_cons, exists_eq_or_imp, List.cons_append]

theorem keepsOpen_cons :
    KeepsOpen (c :: cs) ↔
      (commentStart.isAt (c :: cs) ∧ ¬ EndsComment (c :: cs) ∧ StartsScript (c :: cs)) ∨ KeepsOpen cs := by
  simp only [KeepsOpen, List.tails_cons, List.mem_cons, exists_eq_or_imp]

theorem commentStart_append_newline :
    commentStart.isAt (c :: (cs ++ ['\n'])) = commentStart.isAt (c :: cs) :=
  @Landmark.isAt_append_singleton commentStart (by decide) (c :: cs)

theorem commentEnd_append_newline : commentEnd.isAt (c :: (cs ++ ['\n'])) = commentEnd.isAt (c :: cs) :=
  @Landmark.isAt_append_singleton commentEnd (by decide) (c :: cs)

variable {c cs}

/-- No two of the landmarks stand at the same place. -/
theorem not_isAt_of_commentStart (h : commentStart.isAt (c :: cs)) :
    commentEnd.isAt (c :: cs) = false ∧ scriptStartTag.isAt (c :: (cs ++ ['\n'])) = false := by
  simp only [commentStart, Landmark.isAt, Bool.and_eq_true, beq_iff_eq] at h
  obtain ⟨rfl, h⟩ := h
  cases cs with
  | nil => cases h
  | cons d cs =>
    simp only [Landmark.isAt, Bool.and_eq_true, beq_iff_eq] at h
    obtain ⟨rfl, -⟩ := h
    exact ⟨rfl, rfl⟩

theorem not_isAt_of_scriptStartTag (h : scriptStartTag.isAt (c :: (cs ++ ['\n']))) :
    commentStart.isAt (c :: cs) = false := by
  cases hstart : commentStart.isAt (c :: cs) with
  | false => rfl
  | true =>
    rw [(not_isAt_of_commentStart hstart).2] at h
    cases h

end KeepsOpen

/-- What makes the rest of a script keep its element open, in a mode in which a comment has begun. -/
def ScriptMode.StaysOpen (source : List Char) : ScriptMode → Prop
  | plain => False
  | escaped => ¬ EndsComment source ∧ StartsScript source
  | doubleEscaped => ¬ EndsComment source

/-- A script leaves its element in doubly escaped text if and only if it keeps it open. -/
theorem ScriptMode.passAll_eq_doubleEscaped_iff (source : List Char) (mode : ScriptMode) :
    mode.passAll source = doubleEscaped ↔ KeepsOpen source ∨ mode.StaysOpen source := by
  induction source generalizing mode with
  | nil =>
    have hnone : ¬ KeepsOpen [] := by simp [KeepsOpen, commentStart, Landmark.isAt]
    cases mode <;> simp [passAll, StaysOpen, hnone, not_endsComment_nil, not_startsScript_nil]
  | cons c cs ih =>
    rw [passAll, ih, keepsOpen_cons]
    cases mode with
    | plain =>
      by_cases hstart : commentStart.isAt (c :: cs)
      · -- the comment that begins here is one that the rest of the script may leave open
        obtain ⟨hend, htag⟩ := not_isAt_of_commentStart hstart
        simp only [pass, commentStart_append_newline, hstart, if_true, StaysOpen, endsComment_cons, startsScript_cons,
          hend, htag, Bool.false_eq_true, false_or, true_and, or_false]
        exact or_comm
      · simp only [pass, commentStart_append_newline, hstart, if_false, StaysOpen, false_and, false_or,
          Bool.false_eq_true]
    | escaped =>
      by_cases hend : commentEnd.isAt (c :: cs)
      · simp only [pass, commentEnd_append_newline, hend, if_true, StaysOpen, endsComment_cons, true_or, not_true,
          false_and, and_false, false_or]
      · by_cases htag : scriptStartTag.isAt (c :: (cs ++ ['\n']))
        · have hstart := not_isAt_of_scriptStartTag htag
          simp only [pass, commentEnd_append_newline, hend, htag, hstart, if_true, if_false, StaysOpen,
            endsComment_cons, startsScript_cons, Bool.false_eq_true, false_and, false_or, true_or, and_true]
        · simp only [pass, commentEnd_append_newline, hend, htag, if_false, StaysOpen, endsComment_cons,
            startsScript_cons, Bool.false_eq_true, false_or]
          tauto
    | doubleEscaped =>
      by_cases hend : commentEnd.isAt (c :: cs)
      · simp only [pass, commentEnd_append_newline, hend, if_true, StaysOpen, endsComment_cons, true_or, not_true,
          false_and, and_false, false_or]
      · simp only [pass, commentEnd_append_newline, hend, if_false, StaysOpen, endsComment_cons, Bool.false_eq_true,
          false_or]
        tauto

-- the line feed behind the script ends the name of a tag, and the end of the comment may share its hyphens
example : ScriptMode.plain.passAll ['<', '!', '-', '-', '<', 'S', 'c', 'r', 'i', 'p', 't'] = .doubleEscaped := by decide

example : ¬ KeepsOpen ['<', '!', '-', '-', '>', '<', 's', 'c', 'r', 'i', 'p', 't', '>'] := by decide

end Bookmarklet.Preview
