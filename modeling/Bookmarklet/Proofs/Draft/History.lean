import Bookmarklet.Draft
import Bookmarklet.Proofs.Link.Cache

/-!
# Histories of drafts

A `Draft.Move` is one thing that an author does with a draft, `Draft.perform` what becomes of the draft and the error
that is reported, and `Draft.run` a whole history of moves. A draft is coherent if a link that it holds is the link of
its script, and its script has no errors (`Draft.Coherent`). Each move keeps a draft coherent (`Draft.Coherent.step`),
so every draft with a history is (`Draft.coherent_run`).
-/

namespace Bookmarklet.Draft

/-- What an author does with a draft. -/
inductive Move where
  | setSource (source : String)
  | build
  /-- Builds the link through some cache that has come about. -/
  | buildCached (cache : { c : Link.Cache // c.Reachable })
  | acknowledge
  | accept (response : Response)

/-- Does a move: the error that is reported, if any, and the draft that the move leaves behind. -/
def perform (d : Draft) : Move → Option DraftError × Draft
  | .setSource source => (none, d.setSource source)
  | .build =>
    match d.build with
    | .ok d => (none, d)
    | .error e => (some e, d)
  | .buildCached cache =>
    match d.buildCached cache with
    | .ok (d, _) => (none, d)
    | .error e => (some e, d)
  | .acknowledge => (none, d.acknowledge)
  | .accept response =>
    match d.accept response with
    | .ok (_, d) => (none, d)
    | .error e => (some e, d)

/-- The draft that a move leaves behind. -/
def step (d : Draft) (move : Move) : Draft := (d.perform move).2

/-- The draft that a history of moves leaves behind. -/
def run (d : Draft) (moves : List Move) : Draft := moves.foldl step d

/-! ## What a move does -/

section Moves

variable (d : Draft)

/-- The errors of a script prevent that a link is built, and nothing else does. -/
theorem hasErrors_issues : Screening.hasErrors d.issues = decide (0 < d.errorCount) := by
  rw [Screening.hasErrors, errorCount, Bool.eq_iff_iff, List.any_eq_true, decide_eq_true_iff, List.countP_pos_iff]

/-- A script with errors is left as it is. -/
theorem perform_build_of_errors (h : 0 < d.errorCount) : d.perform .build = (some (.hasErrors d.errorCount), d) := by
  simp [perform, build, h]

/-- A script without errors gets its link. -/
theorem perform_build_of_clean (h : d.errorCount = 0) :
    d.perform .build = (none, { d with link := some (Link.build d.source) }) := by
  simp [perform, build, h]

/-- It makes no difference whether a link is built directly or through a cache. -/
theorem perform_buildCached (cache : { c : Link.Cache // c.Reachable }) :
    d.perform (.buildCached cache) = d.perform .build := by
  by_cases h : 0 < d.errorCount
  · simp [perform, build, buildCached, h]
  · simp [perform, build, buildCached, h, cache.2.faithful.link_generate d.source]

/-- A response is either code, which takes the place of the script, or changes nothing. -/
theorem step_accept (response : Response) :
    d.step (.accept response) = d ∨ ∃ source, d.step (.accept response) = new source := by
  cases response with
  | code script warnings => exact .inr ⟨script, rfl⟩
  | explanation lines => exact .inl rfl
  | blocked reason => exact .inl rfl

end Moves

/-! ## Coherent drafts -/

/-- A link that the draft holds is that of its script, and the script has no errors. -/
def Coherent (d : Draft) : Prop :=
  ∀ link, d.link = some link → Screening.hasErrors d.issues = false ∧ link = Link.build d.source

theorem Coherent.new (source : String) : Coherent (new source) := fun _ h => by cases h

/-- A coherent draft of a script with errors holds no link. -/
theorem Coherent.link_eq_none {d : Draft} (h : d.Coherent) (he : 0 < d.errorCount) : d.link = none := by
  cases hl : d.link with
  | none => rfl
  | some link =>
    have hclean := (h link hl).1
    rw [hasErrors_issues, decide_eq_false_iff_not] at hclean
    exact absurd he hclean

/-- Building keeps a draft coherent, whether it succeeds or not. -/
theorem Coherent.build {d : Draft} (h : d.Coherent) : (d.step .build).Coherent := by
  by_cases he : 0 < d.errorCount
  · rw [step, perform_build_of_errors d he]
    exact h
  · rw [step, perform_build_of_clean d (by omega)]
    intro link hl
    have hclean : Screening.hasErrors d.issues = false := by rw [hasErrors_issues, decide_eq_false he]
    exact ⟨hclean, (Option.some.inj hl).symm⟩

/-- Every move keeps a draft coherent. -/
theorem Coherent.step {d : Draft} (h : d.Coherent) (move : Move) : (d.step move).Coherent := by
  cases move with
  | setSource source =>
    show Coherent (if source = d.source then d else .new source)
    split
    · exact h
    · exact .new source
  | build => exact h.build
  | buildCached cache =>
    rw [Draft.step, perform_buildCached]
    exact h.build
  | acknowledge => exact h
  | accept response =>
    rcases step_accept d response with heq | ⟨source, heq⟩ <;> rw [heq]
    · exact h
    · exact .new source

/-- Every history keeps a draft coherent. -/
theorem Coherent.run {d : Draft} (h : d.Coherent) : ∀ moves : List Move, (d.run moves).Coherent
  | [] => h
  | move :: moves => (h.step move).run moves

/-- After any history, a draft that holds a link holds that of its script, which has no errors. Building it directly or
through any cache comes to the same; and where a build finds errors, it leaves the draft as it was, without a link. -/
theorem coherent_run (source : String) (moves : List Move) :
    let d := (new source).run moves
    (∀ link, d.link = some link → Screening.hasErrors (Screening.issues d.source) = false ∧ link = Link.build d.source)
      ∧ (∀ cache, d.perform (.buildCached cache) = d.perform .build)
      ∧ ∀ count, (d.perform .build).1 = some (.hasErrors count) → (d.perform .build).2 = d ∧ d.link = none := by
  intro d
  have hd : d.Coherent := (Coherent.new source).run moves
  refine ⟨hd, perform_buildCached d, fun count h => ?_⟩
  by_cases he : 0 < d.errorCount
  · exact ⟨by rw [perform_build_of_errors d he], hd.link_eq_none he⟩
  · rw [perform_build_of_clean d (by omega)] at h
    cases h

end Bookmarklet.Draft
