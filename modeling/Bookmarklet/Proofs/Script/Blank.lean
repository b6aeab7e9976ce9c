import Bookmarklet.Proofs.Script.Sparse

/-!
# Scripts of blanks

Where only separators are left, the first token is the end of the source (`lex_separators`). At the start of a script
the parser reduces the empty program on it and accepts (`parse_separators`), so a script of separators is accepted and
has no tokens (`check_separators`).
-/

namespace Bookmarklet.Script

/-! ## Separators -/

namespace CharSet

/-- The characters in the ranges of a set. -/
def listed : CharSet → List Char
  | only ranges => ranges.flatMap fun (low, high) => (List.range' low (high + 1 - low)).map Char.ofNat
  | except _ => []

theorem mem_listed {ranges : List (Nat × Nat)} {c : Char} (h : (only ranges).contains c) :
    c ∈ (only ranges).listed := by
  obtain ⟨⟨low, high⟩, hrange, hc⟩ := List.any_eq_true.1 h
  rw [Bool.and_eq_true, Nat.ble_eq, Nat.ble_eq] at hc
  refine List.mem_flatMap.2 ⟨(low, high), hrange, List.mem_map.2 ⟨c.toNat, ?_, Char.ofNat_toNat c⟩⟩
  rw [List.mem_range'_1]
  omega

theorem forall_separator (test : Char → Bool) (h : separator.listed.all test = true) {c : Char}
    (hc : separator.contains c) : test c :=
  List.all_eq_true.1 h c (mem_listed hc)

end CharSet

/-! ## The first token -/

section Lexing

variable {text : List Char}

theorem Context.htmlComment_separators (h : text.all CharSet.separator.contains) (offset : Nat) :
    htmlComment offset text = none := by
  induction text generalizing offset with
  | nil => rfl
  | cons c rest ih =>
    obtain ⟨hc, hrest⟩ := Bool.and_eq_true_iff.1 h
    have hne : c ≠ '<' ∧ c ≠ '-' :=
      ⟨fun heq => absurd (heq ▸ hc) (by decide), fun heq => absurd (heq ▸ hc) (by decide)⟩
    unfold htmlComment
    split
    next heq => exact absurd (List.cons.inj heq).1 hne.1
    next heq => exact absurd (List.cons.inj heq).1 hne.2
    next heq =>
      cases heq
      split
      · exact ih hrest _
      · rfl
    next => rfl

theorem Context.scan_separators (h : text.all CharSet.separator.contains) :
    scan (Grammar.contextOf Grammar.startState) (.ofText text) = none := by
  rw [show Grammar.contextOf Grammar.startState = [.htmlComment] from rfl]
  unfold scan Cursor.ofText
  split
  next rest heq =>
    cases heq
    exact congrArg (Option.map _) (htmlComment_separators (Bool.and_eq_true_iff.1 h).2 0)
  next heq =>
    cases heq
    exact htmlComment_separators h 0

/-- A mode in which no pattern starts with a separator. -/
def Mode.SkipsSeparators (mode : Mode) : Prop :=
  mode.spaced.isEmpty = false ∧ ∀ c, CharSet.separator.contains c → Front.follow c mode.spaced = []

/-- Separators leave the front of such a mode as it is; at the end of the source, that is the token found. -/
theorem Mode.scanFrom_separators {mode : Mode} (hskips : mode.SkipsSeparators) (hend : mode.endOfInput)
    (h : text.all CharSet.separator.contains) (offset : Nat) :
    mode.scanFrom offset offset ⟨true, []⟩ none text
      = ⟨some .endOfInput, offset + text.length, offset + text.length, offset + text.length⟩ := by
  obtain ⟨hspaced, hfollow⟩ := hskips
  induction text generalizing offset with
  | nil => simp [scanFrom, hend]
  | cons c rest ih =>
    obtain ⟨hc, hrest⟩ := Bool.and_eq_true_iff.1 h
    have hstep : Front.step mode ⟨true, []⟩ c = some ⟨true, []⟩ := by
      simp [Front.step, hfollow c hc, show Front.follow c [] = [] from rfl, show CharSet.separator.contains c from hc,
        hspaced, Front.complete?]
    have hcomplete : Front.complete? ⟨true, []⟩ = none := rfl
    rw [scanFrom]
    simp only [hstep, hcomplete, Option.map_none, Option.none_or, List.isEmpty_nil, if_true]
    rw [ih hrest, List.length_cons, Nat.add_right_comm, ← Nat.add_assoc]

/-- The mode at the start of a script. -/
theorem Mode.skipsSeparators_start : (ofIndex (Grammar.modeOf Grammar.startState)).SkipsSeparators := by
  refine ⟨rfl, fun c hc => ?_⟩
  exact List.isEmpty_iff.1 (CharSet.forall_separator
    (fun c => (Front.follow c (ofIndex (Grammar.modeOf Grammar.startState)).spaced).isEmpty) (by decide +kernel) hc)

theorem Mode.scan_separators (h : text.all CharSet.separator.contains) :
    ∃ n, (ofIndex (Grammar.modeOf Grammar.startState)).scan (.ofText text) = ⟨some .endOfInput, n, n, n⟩ := by
  have himmediate : (ofIndex (Grammar.modeOf Grammar.startState)).immediate = [] := rfl
  have hend : (ofIndex (Grammar.modeOf Grammar.startState)).endOfInput = true := rfl
  unfold scan Cursor.ofText
  rw [Front.start, himmediate]
  split
  next rest heq =>
    cases heq
    exact ⟨_, scanFrom_separators skipsSeparators_start hend (Bool.and_eq_true_iff.1 h).2 1⟩
  next heq =>
    cases heq
    exact ⟨_, scanFrom_separators skipsSeparators_start hend h 0⟩

theorem Parser.lex_separators (h : text.all CharSet.separator.contains) (advanced : Bool) :
    ∃ span, lex Grammar.startState advanced (.ofText text) = .leaf (.mark .endOfInput) span true := by
  obtain ⟨n, hscan⟩ := Mode.scan_separators h
  simp only [lex, Context.scan_separators h, Option.filter_none, hscan]
  simp [patternLeaf, leafAt, tokenLeaf, asWord]

end Lexing

/-! ## The parse -/

namespace Grammar

/-- The reduction of an empty program. -/
def emptyProgram : Reduction := ⟨.program, 0, 0, .plain⟩

theorem moves_startState : moves startState .endOfInput = [.reduce emptyProgram] := rfl

theorem moves_program : moves (targetOf startState .program) .endOfInput = [.accept] := rfl

end Grammar

namespace Parser

section Empty

variable (source : List Char) (span : Span) (top : Nat)

/-- The end of a source. -/
def endLeaf : Subtree := .leaf (.mark .endOfInput) span true

/-- The reading of a script of which only the end is left: an empty program on top of the bottom. -/
def emptyReading : Reading where
  stack := (Stack.bottom (.ofText source)).push 1 (some (.wrap (.construct .program) .plain (.ofText source) [])) top
  nodesAtError := 0
  status := .active
  ladder := none

/-- The root of such a script. -/
def emptyRoot : Subtree := .wrap (.construct .program) .plain (.ofText source) [endLeaf span]

theorem reduce_emptyProgram (h : Grammar.targetOf Grammar.startState .program = top) :
    (start source).reduce 0 Grammar.emptyProgram
      = ({ start source with fresh := 2 }.append (emptyReading source top), true) := by
  subst h
  simp [reduce, start, height, Stack.pop, Stack.descend, Stack.descendOnce, Stack.moveDown, Stack.noteEnd,
    Stack.bottom, Grammar.emptyProgram, addReduced, maxReadings, slack, wrapPaths, Subtree.splitExtras,
    Stack.state, Stack.place, Reading.pushAll, Reading.push, Subtree.prefer, append, emptyReading, Subtree.wrap]

theorem accept_emptyReading : ∃ reading, reading.isHalted ∧
    accept ⟨[emptyReading source top], 2, none, 0⟩ 0 (endLeaf span)
      = ⟨[reading], 3, some (emptyRoot source span), 1⟩ := by
  refine ⟨{ (emptyReading source top).push 2 (some (endLeaf span)) Grammar.startState with status := .halted }, rfl, ?_⟩
  simp [accept, push, modify, emptyReading, emptyRoot, endLeaf, Reading.push, halt, height, Stack.popAll, Stack.descend,
    Stack.descendOnce, Stack.moveDown, Stack.links, Stack.bottom, Stack.push, Stack.Path.follow, Stack.noteEnd, root?,
    Subtree.wrap, Subtree.extra, Subtree.spanOf]

/-- The first reading reduces the empty program, and is accepted. -/
theorem take_endLeaf (fuel : Nat) : ∃ reading, reading.isHalted ∧
    take 0 (fuel + 1 + 1) (endLeaf span) (start source) = ⟨[reading], 3, some (emptyRoot source span), 1⟩ := by
  obtain ⟨top, htop⟩ : ∃ top, Grammar.targetOf Grammar.startState .program = top := ⟨_, rfl⟩
  have hreduce : movesOn Grammar.startState (endLeaf span) = [.reduce Grammar.emptyProgram] := Grammar.moves_startState
  have haccept : movesOn top (endLeaf span) = [.accept] := htop ▸ Grammar.moves_program
  obtain ⟨reading, hhalted, haccepted⟩ := accept_emptyReading source span top
  refine ⟨reading, hhalted, ?_⟩
  have hstart : (start source).readings[0]? = some ⟨.bottom (.ofText source), 0, .active, none⟩ := rfl
  have hstate : (⟨.bottom (.ofText source), 0, .active, none⟩ : Reading).state = Grammar.startState := rfl
  have hrenumber : ({ start source with fresh := 2 }.append (emptyReading source top)).renumber 1 0
      = ⟨[emptyReading source top], 2, none, 0⟩ := rfl
  rw [take]
  simp only [hstart, hstate, hreduce, act, reduce_emptyProgram source top htop, if_true]
  rw [show (start source).readings.length = 1 from rfl, hrenumber, take]
  simp only [List.getElem?_cons_zero, show (emptyReading source top).state = top from rfl, haccept, act, haccepted]

theorem tree_emptyRoot : ∃ info, info.faulty = false ∧ (emptyRoot source span).tree = .node info [] := by
  have hkind : (Symbol.construct .program).kind? = some .program := rfl
  have hbelow : Subtree.nodesOf .plain none 0 [endLeaf span] = [] := rfl
  rw [emptyRoot, Subtree.wrap, Subtree.tree, Subtree.nodes, hkind, hbelow]
  exact ⟨_, rfl, rfl⟩

end Empty

/-- A round leaves readings alone that were given up. -/
theorem round_of_isHalted {p : Parser} (h : ∀ r ∈ p.readings, r.isHalted) : ∀ fuel v last, (round fuel v last p).1 = p
  | 0, _, _ => rfl
  | fuel + 1, v, last => by
    rw [round]
    split
    · rfl
    next reading hreading =>
      have hhalted := h reading (List.mem_of_getElem? hreading)
      have hactive : reading.isActive = false := by
        unfold Reading.isHalted at hhalted
        unfold Reading.isActive
        split <;> simp_all
      rw [hactive]
      exact round_of_isHalted h fuel (v + 1) last

/-- A reading that was given up is dropped. -/
theorem condense_of_isHalted {reading : Reading} (h : reading.isHalted) (fresh : Nat) (finished : Option Subtree)
    (accepted : Nat) : condense ⟨[reading], fresh, finished, accepted⟩ = (⟨[], fresh, finished, accepted⟩, none) := by
  simp [condense, sort, h, remove, resume]

variable {source : List Char}

theorem advance_separators (h : source.all CharSet.separator.contains) : ∃ reading span, reading.isHalted ∧
    (start source).advance 0 = ⟨[reading], 3, some (emptyRoot source span), 1⟩ := by
  have hstart : (start source).readings[0]? = some ⟨.bottom (.ofText source), 0, .active, none⟩ := rfl
  unfold advance
  rw [hstart]
  obtain ⟨span, hlex⟩ := lex_separators h ((Stack.bottom (.ofText source)).weight.cost == 0
    || (Stack.bottom (.ofText source)).hasAdvanced 0 (start source).height)
  obtain ⟨reading, hhalted, htake⟩ := take_endLeaf source span 1086
  refine ⟨reading, span, hhalted, ?_⟩
  change take 0 1088 (lex Grammar.startState _ (.ofText source)) (start source) = _
  rw [hlex]
  exact htake

theorem run_separators (h : source.all CharSet.separator.contains) (fuel : Nat) :
    ∃ span, run (fuel + 1) 0 (start source) = some (emptyRoot source span) := by
  obtain ⟨reading, span, hhalted, hadvance⟩ := advance_separators h
  refine ⟨span, ?_⟩
  have hall : ∀ r ∈ (⟨[reading], 3, some (emptyRoot source span), 1⟩ : Parser).readings, r.isHalted :=
    List.forall_mem_singleton.2 hhalted
  have hround : (round (fuel + 63 + 1) 0 0 (start source)).1 = ⟨[reading], 3, some (emptyRoot source span), 1⟩ := by
    rw [round]
    simp only [show (start source).readings[0]? = some ⟨.bottom (.ofText source), 0, .active, none⟩ from rfl,
      Reading.isActive, if_true, hadvance]
    split
    · exact round_of_isHalted hall _ _ _
    · exact round_of_isHalted hall _ _ _
  rw [run]
  simp only [hround, condense_of_isHalted hhalted]

end Parser

section Check

variable {source : List Char}

theorem parse_separators (h : source.all CharSet.separator.contains) :
    ∃ info, info.faulty = false ∧ parse source = some (.node info []) := by
  obtain ⟨span, hrun⟩ := Parser.run_separators h (16 * source.length + 255)
  obtain ⟨info, hfaulty, htree⟩ := Parser.tree_emptyRoot source span
  exact ⟨info, hfaulty, htree ▸ congrArg (Option.map Subtree.tree) hrun⟩

/-- A script of separators is accepted, and has no tokens. -/
theorem check_separators (h : source.all CharSet.separator.contains) :
    ∃ t, check source = .ok t ∧ t.hasTokens = false := by
  obtain ⟨info, hfaulty, hparse⟩ := parse_separators h
  have hviolation : (Tree.node info []).programViolation? = none := rfl
  have hrefusal : (Tree.node info []).refusal? = none := by
    simp [Tree.refusal?, Tree.info, hfaulty, Tree.moduleViolation?, Tree.children, hviolation]
  have hcheck : check source = .ok (.node info []) := by
    unfold check
    rw [hparse]
    simp only [hrefusal]
  have htokens : (Tree.node info []).hasTokens = false := by
    rw [Tree.hasTokens, Tree.anyToken, Tree.anyTokenIn, Bool.and_false]
  exact ⟨.node info [], hcheck, htokens⟩

end Check
end Bookmarklet.Script
