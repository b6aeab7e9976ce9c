import Mathlib.Data.List.DropRight
import Bookmarklet.Proofs.Draft.History

/-!
# When a draft is ready

Whether a draft may be saved depends on its past only from the last change of the script on. A `Draft.Turn` is a move
together with the draft that it is done on, so that one can say whether it changes the script (`Turn.changes`), builds
a link (`Turn.builds`) or acknowledges the warnings (`Turn.acknowledges`), and `Draft.recent` are the turns of a history
behind the last one that changes the script. A draft holds a link if one of them builds it (`isSome_link_run`), its
warnings are acknowledged if one of them does so (`acknowledged_run`), and these two decide whether it is ready
(`ready_run`).
-/

namespace Bookmarklet.Draft

/-- A move, with the draft that it is done on. -/
structure Turn where
  draft : Draft
  move : Move

namespace Turn

/-- Whether the script is replaced. Code that is accepted counts even if it is the script, the same script put in by the
author does not. -/
def changes (t : Turn) : Bool :=
  match t.move with
  | .setSource source => source != t.draft.source
  | .accept (.code _ _) => true
  | _ => false

/-- Whether a link is built, without an error. -/
def builds (t : Turn) : Bool :=
  match t.move with
  | .build | .buildCached _ => (t.draft.perform t.move).1.isNone
  | _ => false

/-- Whether the warnings are acknowledged. -/
def acknowledges (t : Turn) : Bool := t.move matches .acknowledge

end Turn

/-- The turns of a history. -/
def turns (d : Draft) : List Move → List Turn
  | [] => []
  | move :: moves => ⟨d, move⟩ :: (d.step move).turns moves

/-- The turns behind the last one that changes the script, or all if none does. -/
def recent (d : Draft) (moves : List Move) : List Turn := (d.turns moves).rtakeWhile (!·.changes)

/-! ## One more move -/

section Concat

variable (d : Draft) (moves : List Move) (move : Move)

@[simp] theorem run_concat : d.run (moves ++ [move]) = (d.run moves).step move := by simp [run]

theorem turns_concat : d.turns (moves ++ [move]) = d.turns moves ++ [⟨d.run moves, move⟩] := by
  induction moves generalizing d with
  | nil => rfl
  | cons first moves ih => simp [turns, ih, run]

/-- A change leaves nothing recent, every other move is recent from then on. -/
theorem recent_concat :
    d.recent (moves ++ [move])
      = if Turn.changes ⟨d.run moves, move⟩ then [] else d.recent moves ++ [⟨d.run moves, move⟩] := by
  simp only [recent, turns_concat, List.rtakeWhile_concat]
  cases Turn.changes ⟨d.run moves, move⟩ <;> rfl

/-- A build either gives the draft its link, or reports an error and leaves it as it was. -/
theorem perform_build_cases :
    d.perform .build = (none, { d with link := some (Link.build d.source) })
      ∨ ∃ e, d.perform .build = (some e, d) := by
  by_cases h : 0 < d.errorCount
  · exact .inr ⟨_, perform_build_of_errors d h⟩
  · exact .inl (perform_build_of_clean d (Nat.eq_zero_of_not_pos h))

/-- A draft holds a link if the move builds it, or if it held one and the script stays. -/
theorem isSome_link_step :
    (d.step move).link.isSome
      = (!Turn.changes ⟨d, move⟩ && (d.link.isSome || Turn.builds ⟨d, move⟩)) := by
  cases move with
  | setSource source =>
    by_cases h : source = d.source <;> simp [step, perform, setSource, new, Turn.changes, Turn.builds, h]
  | build => rcases perform_build_cases d with h | ⟨e, h⟩ <;> simp [step, Turn.changes, Turn.builds, h]
  | buildCached cache =>
    rcases perform_build_cases d with h | ⟨e, h⟩ <;>
      simp [step, perform_buildCached, Turn.changes, Turn.builds, h]
  | acknowledge => simp [step, perform, acknowledge, Turn.changes, Turn.builds]
  | accept response => cases response <;> simp [step, perform, accept, Turn.changes, Turn.builds]

/-- The warnings are acknowledged if the move does so, or if they were and the script stays. -/
theorem acknowledged_step :
    (d.step move).acknowledged
      = (!Turn.changes ⟨d, move⟩ && (d.acknowledged || Turn.acknowledges ⟨d, move⟩)) := by
  cases move with
  | setSource source =>
    by_cases h : source = d.source <;> simp [step, perform, setSource, new, Turn.changes, Turn.acknowledges, h]
  | build => rcases perform_build_cases d with h | ⟨e, h⟩ <;> simp [step, Turn.changes, Turn.acknowledges, h]
  | buildCached cache =>
    rcases perform_build_cases d with h | ⟨e, h⟩ <;>
      simp [step, perform_buildCached, Turn.changes, Turn.acknowledges, h]
  | acknowledge => simp [step, perform, acknowledge, Turn.changes, Turn.acknowledges]
  | accept response => cases response <;> simp [step, perform, accept, Turn.changes, Turn.acknowledges]

end Concat

/-! ## What the recent turns decide -/

section Run

variable (source : String) (moves : List Move)

/-- A draft holds a link if a recent turn builds it. -/
theorem isSome_link_run : ((new source).run moves).link.isSome = ((new source).recent moves).any (·.builds) := by
  induction moves using List.reverseRecOn with
  | nil => rfl
  | append_singleton moves move ih =>
    rw [run_concat, isSome_link_step, recent_concat, ih]
    cases Turn.changes ⟨(new source).run moves, move⟩ <;> simp

/-- The warnings of a draft are acknowledged if a recent turn does so. -/
theorem acknowledged_run :
    ((new source).run moves).acknowledged = ((new source).recent moves).any (·.acknowledges) := by
  induction moves using List.reverseRecOn with
  | nil => rfl
  | append_singleton moves move ih =>
    rw [run_concat, acknowledged_step, recent_concat, ih]
    cases Turn.changes ⟨(new source).run moves, move⟩ <;> simp

end Run

/-- A script without errors has warnings only. -/
theorem warnings_of_clean {d : Draft} (h : Screening.hasErrors d.issues = false) : d.warnings = d.issues := by
  refine List.filter_eq_self.mpr fun issue hi => ?_
  have herror : issue.isError = false := by simpa using List.any_eq_false.mp h issue hi
  cases hlevel : issue.level with
  | warning => simp [Screening.Issue.isWarning, hlevel]
  | error => simp [Screening.Issue.isError, hlevel] at herror

/-- What a link says of the script are the warnings of the draft that holds it. -/
theorem Coherent.warnings_link {d : Draft} (h : d.Coherent) {link : Link} (hl : d.link = some link) :
    link.warnings = d.warnings.map (·.message) := by
  obtain ⟨hclean, rfl⟩ := h link hl
  rw [warnings_of_clean hclean]
  rfl

/-- Whether a draft is ready, by the turns behind the last change of its script: a link must have been built, and unless
nothing is said of the script, the warnings acknowledged. The warnings that a link carries are those of the draft. -/
theorem ready_run (source : String) (moves : List Move) :
    let d := (new source).run moves
    let recent := (new source).recent moves
    (d.ready =
        if !recent.any (·.builds) then .error .notGenerated
        else if d.issues.isEmpty || recent.any (·.acknowledges) then .ok ()
        else .error .warningsNotAcknowledged)
      ∧ ∀ link, d.link = some link → link.warnings = d.warnings.map (·.message) := by
  intro d recent
  have hd : d.Coherent := (Coherent.new source).run moves
  refine ⟨?_, fun link hl => hd.warnings_link hl⟩
  have hlink : d.link.isSome = recent.any (·.builds) := isSome_link_run source moves
  have hack : d.acknowledged = recent.any (·.acknowledges) := acknowledged_run source moves
  rw [← hlink, ← hack, ready]
  cases hl : d.link with
  | none => rfl
  | some link =>
    rw [warnings_of_clean (hd link hl).1]
    cases d.acknowledged <;> cases d.issues.isEmpty <;> rfl

end Bookmarklet.Draft
