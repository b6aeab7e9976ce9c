import Bookmarklet.Proofs.Script.Parser.Reading
import Bookmarklet.Script.Parser.Recovery

/-!
# Recovery loses no text

What error recovery does keeps a parser sound: accepting a reading (`Parser.Sound.accept`), returning to an earlier
state (`Parser.Sound.returnToState`), skipping a token (`Parser.Sound.skip`) and inserting one
(`Parser.Sound.insertMissing`). So a reading that cannot take the token behind it recovers soundly
(`Parser.Sound.handleError`).
-/

namespace Bookmarklet.Script

open Subtree (CoversAll)
open Grammar (errorState startState moves)

namespace Parser

/-! ## Accepting -/

section Accept

variable {source : List Char} {held : List Stack} {top b : Cursor} {p q : Parser} {v : Nat} {lookahead : Subtree}

/-- The last part that is not extra becomes the root, with all others. -/
theorem root?_eq_some {parts : List Subtree} {s : Subtree} (h : root? parts = some s) :
    ∃ before symbol shape children span weight after,
      parts = before ++ .branch symbol shape children span false weight :: after ∧ (∀ c ∈ after, c.extra)
        ∧ s = Subtree.wrap symbol shape span.stop (before ++ children ++ after) := by
  have happend := Subtree.splitExtras_append parts
  have hreverse := Subtree.reverse_splitExtras parts
  have hafter : ∀ c ∈ (Subtree.splitExtras parts).2, c.extra := fun c hc => Subtree.extra_of_mem_splitExtras hc
  unfold root? at h
  dsimp only at h
  split at h
  next symbol shape children span extra weight before hparts =>
    have hfront : (Subtree.splitExtras parts).1.reverse = .branch symbol shape children span extra weight :: before :=
      hparts
    cases h
    have hextra := List.head?_dropWhile_not (·.extra) parts.reverse
    rw [← hreverse, hfront] at hextra
    cases (show extra = false by simpa [Subtree.extra] using hextra)
    refine ⟨before.reverse, symbol, shape, children, span, weight, (Subtree.splitExtras parts).2, ?_, hafter, rfl⟩
    conv_lhs => rw [← happend]
    rw [← List.reverse_reverse (Subtree.splitExtras parts).1, hfront, List.reverse_cons, List.append_assoc]
    rfl
  next => cases h

/-- A root covers what the parts on the stack cover. -/
theorem covers_root? {parts : List Subtree} {a : Cursor} {s : Subtree} (h : CoversAll parts a b)
    (hs : root? parts = some s) : s.Covers a b := by
  obtain ⟨before, symbol, shape, children, span, weight, after, rfl, -, rfl⟩ := root?_eq_some hs
  obtain ⟨m, hbefore, n, ⟨hchildren, hstop⟩, hafter⟩ := Subtree.coversAll_append.1 h
  refine Subtree.covers_wrap (Subtree.coversAll_append.2 ⟨n, Subtree.coversAll_append.2 ⟨m, hbefore, hchildren⟩,
    hafter⟩) symbol shape fun hnil => ?_
  rw [(List.append_eq_nil_iff.1 hnil).2] at hafter
  exact hstop.trans hafter

/-- The root of parts that end with an error and a token is an error. -/
theorem rooted_of_error {parts : List Subtree} {here : Cursor} {s : Subtree} (ht : lookahead.isToken)
    (hs : root? (parts ++ [Subtree.wrap .error .plain here [], lookahead]) = some s) : Rooted s := by
  obtain ⟨before, symbol, shape, children, span, weight, after, heq, hafter, rfl⟩ := root?_eq_some hs
  rw [List.append_cons] at heq
  rcases List.eq_nil_or_concat after with rfl | ⟨after, last, rfl⟩
  · cases (List.append_inj' heq rfl).2
    cases ht
  · rw [List.concat_eq_append, ← List.cons_append, ← List.append_assoc] at heq
    have hfront := (List.append_inj' heq rfl).1
    rcases List.eq_nil_or_concat after with rfl | ⟨after, error, rfl⟩
    · cases (List.append_inj' hfront rfl).2
      exact .inl ⟨rfl, Subtree.cost_wrap_error _ _ _⟩
    · rw [List.concat_eq_append, ← List.cons_append, ← List.append_assoc] at hfront
      cases (List.append_inj' hfront rfl).2
      cases hafter (Subtree.wrap .error .plain here []) (by simp)

/-- Accepting keeps a parser sound if each root that may be found for the reading fits. The reading need not be sound,
as it is given up. -/
theorem Sound.accept_of (hp : p.Sound source held) (hfresh : p.fresh ≤ q.fresh) (hfinished : q.finished = p.finished)
    (hothers : ∀ i, i ≠ v → q.readings[i]? = p.readings[i]?)
    (hroots : ∀ r ∈ q.readings[v]?, ∀ fuel, ∀ e ∈ (r.stack.push q.fresh (some lookahead) startState).popAll fuel,
      ∀ parts ∈ e.2, ∀ s ∈ root? parts, (∃ b, s.Covers (.ofText source) b) ∧ Rooted s) :
    (q.accept v lookahead).Sound source held := by
  obtain ⟨points, hp⟩ := hp
  have hof {p' : Parser} (hle : p.fresh ≤ p'.fresh)
      (h : ∀ s ∈ p'.finished, (∃ b, s.Covers (.ofText source) b) ∧ Rooted s)
      (hr : ∀ i, ∀ r ∈ p'.readings[i]?, (i ≠ v ∧ q.readings[i]? = some r) ∨ r.isHalted) : p'.Sound source held := by
    refine ⟨points, fun r hmem => ?_, fun s hs => (hp.held s hs).mono hle fun _ _ => rfl, h⟩
    obtain ⟨i, hi⟩ := List.mem_iff_getElem?.1 hmem
    rcases hr i r hi with ⟨hne, hq⟩ | hhalted
    · rw [hothers i hne] at hq
      exact (hp.readings r (List.mem_of_getElem? hq)).mono hle fun _ _ => rfl
    · exact .of_isHalted hhalted
  have hle : p.fresh ≤ q.fresh + 1 := Nat.le_succ_of_le hfresh
  have hpushed {i : Nat} (hi : i ≠ v) : (q.push v (some lookahead) startState).readings[i]? = q.readings[i]? :=
    readings_modify_of_ne q hi _
  unfold Parser.accept
  simp only
  split
  next hnone =>
    refine hof hle (fun s hs => hp.finished s (hfinished ▸ hs)) fun i r hi => .inl ?_
    have hne : i ≠ v := by
      rintro rfl
      rw [hnone] at hi
      cases hi
    exact ⟨hne, hpushed hne ▸ hi⟩
  next reading hreading =>
    refine hof hle ?_ fun i r hi => ?_
    · refine List.foldlRecOn (motive := fun best : Option Subtree => ∀ s ∈ best,
        (∃ b, s.Covers (.ofText source) b) ∧ Rooted s) _ _ (fun s hs => hp.finished s (hfinished ▸ hs))
        fun best hbest s hs => ?_
      obtain ⟨parts, hmem, hroot⟩ := List.mem_filterMap.1 hs
      obtain ⟨e, he, hparts⟩ := List.mem_flatMap.1 hmem
      obtain ⟨r, hr, rfl⟩ : ∃ r, q.readings[v]? = some r ∧ r.push q.fresh (some lookahead) startState = reading := by
        exact Option.map_eq_some_iff.1 ((readings_modify_self q v _).symm.trans hreading)
      have hfits := hroots r hr _ e he parts hparts s hroot
      cases best with
      | none =>
        rintro _ ⟨⟩
        exact hfits
      | some old =>
        simp only
        split
        · rintro _ ⟨⟩
          exact hfits
        · exact hbest
    · by_cases hne : i = v
      · subst hne
        obtain ⟨r', -, rfl⟩ := Option.map_eq_some_iff.1 ((readings_modify_self _ i _).symm.trans hi)
        exact .inr rfl
      · refine .inl ⟨hne, ?_⟩
        exact (hpushed hne).symm.trans ((readings_modify_of_ne _ hne _).symm.trans hi)

/-- The token that a state accepts ends the source. -/
theorem Sound.accept {state : Nat} (hp : p.Sound source held)
    (hv : ∀ m ∈ p.marks[v]?, m = ⟨⟨top, state⟩, true⟩) (hc : lookahead.Covers top b) (htoken : lookahead.isToken)
    {t : Terminal} (ht : lookahead.symbol = .terminal t) (haccept : .accept ∈ moves state t) :
    (p.accept v lookahead).Sound source held := by
  have hstate : state ≠ errorState := by
    rintro rfl
    cases Grammar.isIdle_of_mem_moves haccept
  refine hp.accept_of (Nat.le_refl _) rfl (fun _ _ => rfl) fun r hr fuel e he parts hparts s hs => ?_
  obtain ⟨points, hp⟩ := hp
  have hmark := hv _ (getElem?_marks hr)
  have hpoint : r.stack.point = ⟨top, state⟩ := congrArg Mark.point hmark
  have hstack := (hp.readings r (List.mem_of_getElem? hr)).active (congrArg Mark.active hmark)
  obtain ⟨fuel', depth, heq⟩ := r.stack.exists_descend_push p.fresh startState lookahead fuel [] 0
  rw [Stack.popAll, heq] at he
  obtain ⟨-, -, hends⟩ := hstack.popAll fuel' [lookahead] depth e he
  obtain ⟨front, width, rfl, hclimbs⟩ := hends parts hparts
  rw [hpoint] at hclimbs
  have hcovers := Subtree.coversAll_append.2 ⟨top, hclimbs.joins.covers, Subtree.coversAll_singleton.2 hc⟩
  exact ⟨⟨b, covers_root? hcovers hs⟩,
    .inr ⟨front, lookahead, state, t, (hclimbs.reaches hstate).1, htoken, ht, haccept, hs⟩⟩

/-- At the end of the source, a reading is accepted behind an empty error. -/
theorem Sound.acceptError (hp : p.Sound source held) (hv : ∀ m ∈ p.marks[v]?, m.ReadyAt top)
    (hc : lookahead.Covers top b) (ht : lookahead.isToken) :
    ((p.push v (some (Subtree.wrap .error .plain top [])) startState).accept v lookahead).Sound source held := by
  have herror : (Subtree.wrap .error .plain top []).Covers top top := ⟨rfl, rfl⟩
  refine hp.accept_of (Nat.le_succ _) rfl (fun i hi => readings_modify_of_ne p hi _)
    fun r' hr' fuel e he parts hparts s hs => ?_
  obtain ⟨r, hr, rfl⟩ : ∃ r, p.readings[v]? = some r
      ∧ r.push p.fresh (some (Subtree.wrap .error .plain top [])) startState = r' := by
    exact Option.map_eq_some_iff.1 ((readings_modify_self p v _).symm.trans hr')
  obtain ⟨points, hp⟩ := hp
  have hready := hv _ (getElem?_marks hr)
  have hstack := (hp.readings r (List.mem_of_getElem? hr)).active hready.active
  have hplace : r.stack.place = top := hready.place
  rw [Stack.popAll] at he
  obtain ⟨fuel₁, depth₁, heq₁⟩ := Stack.exists_descend_push (r.push p.fresh
    (some (Subtree.wrap .error .plain top [])) startState).stack (p.fresh + 1) startState lookahead fuel [] 0
  obtain ⟨fuel₂, depth₂, heq₂⟩ := Stack.exists_descend_push r.stack p.fresh startState
    (Subtree.wrap .error .plain top []) fuel₁ [lookahead] depth₁
  have he' := (heq₁.trans heq₂) ▸ he
  obtain ⟨-, -, hends⟩ := hstack.popAll fuel₂ _ depth₂ e he'
  obtain ⟨front, width, rfl, hclimbs⟩ := hends parts hparts
  have hjoins := hclimbs.joins
  rw [show r.stack.point.place = top from hplace] at hjoins
  have htail : CoversAll [Subtree.wrap .error .plain top [], lookahead] top b :=
    ⟨top, herror, Subtree.coversAll_singleton.2 hc⟩
  exact ⟨⟨b, covers_root? (Subtree.coversAll_append.2 ⟨top, hjoins.covers, htail⟩) hs⟩, rooted_of_error ht hs⟩

end Accept

/-! ## Returning to an earlier state -/

section Return

variable {source : List Char} {held : List Stack} {top b : Cursor} {points : Nat → Point} {p q : Parser} {v : Nat}
  {reading : Reading} {lookahead : Subtree}

theorem findBetter_spec (reading : Reading) (v cost : Nat) : ∀ (j : Nat) (readings : List Reading),
    ((findBetter reading v cost j readings).1.map (·.mark))
        = readings.map (·.mark)
      ∧ ∀ r ∈ (findBetter reading v cost j readings).1, ∃ r' ∈ readings, r = r' ∨ r = r'.settle
  | _, [] => ⟨rfl, nofun⟩
  | j, other :: rest => by
    obtain ⟨hmap, hmem⟩ := findBetter_spec reading v cost (j + 1) rest
    have hcons (first : Reading) (hfirst : first = other ∨ first = other.settle) :
        (((first :: (findBetter reading v cost (j + 1) rest).1).map (·.mark))
            = (other :: rest).map (·.mark))
          ∧ ∀ r ∈ first :: (findBetter reading v cost (j + 1) rest).1,
            ∃ r' ∈ other :: rest, r = r' ∨ r = r'.settle := by
      refine ⟨?_, fun r hr => ?_⟩
      · rw [List.map_cons, List.map_cons, hmap]
        rcases hfirst with rfl | rfl <;> rfl
      · rcases List.mem_cons.1 hr with rfl | hr
        · exact ⟨other, List.mem_cons_self, hfirst⟩
        · obtain ⟨r', hr', heq⟩ := hmem r hr
          exact ⟨r', List.mem_cons_of_mem other hr', heq⟩
    rw [findBetter]
    split
    · exact hcons other (.inl rfl)
    · have hsettled (better : Bool) :
          ((if better then (other.settle :: rest, true)
            else (other.settle :: (findBetter reading v cost (j + 1) rest).1,
              (findBetter reading v cost (j + 1) rest).2)).1.map (·.mark))
              = (other :: rest).map (·.mark)
            ∧ ∀ r ∈ (if better then (other.settle :: rest, true)
              else (other.settle :: (findBetter reading v cost (j + 1) rest).1,
                (findBetter reading v cost (j + 1) rest).2)).1, ∃ r' ∈ other :: rest, r = r' ∨ r = r'.settle := by
        cases better with
        | true =>
          refine ⟨rfl, fun r hr => ?_⟩
          rcases List.mem_cons.1 hr with rfl | hr
          · exact ⟨other, List.mem_cons_self, .inr rfl⟩
          · exact ⟨r, List.mem_cons_of_mem other hr, .inl rfl⟩
        | false => exact hcons other.settle (.inr rfl)
      exact hsettled _

theorem Sound.betterExists {cost : Nat} {pointless : Bool} (hp : p.Sound source held)
    (h : p.betterExists v reading cost = (q, pointless)) : q.Sound source held ∧ q.marks = p.marks := by
  obtain ⟨hmap, hmem⟩ := findBetter_spec reading v cost 0 p.readings
  unfold Parser.betterExists at h
  split at h
  · cases h
    exact ⟨hp, rfl⟩
  · cases h
    refine ⟨hp.of_readings rfl rfl fun r hr => ?_, hmap⟩
    obtain ⟨r', hr', rfl | rfl⟩ := hmem r hr
    · exact ⟨r, hr', fun _ _ h => h⟩
    · exact ⟨r', hr', fun _ _ h => h.settle⟩

/-- The reading that returns to an earlier state is at the place of the one that it comes of. -/
theorem grows_addReturn (origin : Reading) (goal : Nat) {sofar : Parser × Bool} {group : Stack × List (List Subtree)}
    (hp : sofar.1.SoundAt source held points) (hg : group.1.Sound source points sofar.1.fresh ∧ group.2 ≠ []
      ∧ ∀ parts ∈ group.2, Joins parts group.1.place top) :
    ∃ points', Grows source held top points sofar.1 points' (addReturn origin goal sofar group).1 := by
  obtain ⟨hstack, hne, hpaths⟩ := hg
  unfold addReturn
  split
  · exact ⟨points, .refl hp⟩
  next hgoal =>
    have hpath : Joins (group.2.headD []) group.1.place top := by
      cases hpaths' : group.2 with
      | nil => exact absurd hpaths' hne
      | cons parts others => exact hpaths parts (hpaths' ▸ List.mem_cons_self)
    -- What an earlier error below skipped goes into the new one.
    have hearlier : (group.1.popError?.getD (group.1, [])).1.Sound source points sofar.1.fresh
        ∧ Joins (group.1.popError?.getD (group.1, [])).2 (group.1.popError?.getD (group.1, [])).1.place group.1.place
        ∧ (group.1.popError?.getD (group.1, [])).1.state = group.1.state := by
      cases herror : group.1.popError? with
      | none => exact ⟨hstack, .nil _, rfl⟩
      | some found => exact hstack.popError? herror
    rw [show group.1.state = goal from not_not.1 hgoal] at hearlier
    generalize group.1.popError?.getD (group.1, []) = found at hearlier ⊢
    obtain ⟨below, earlier⟩ := found
    obtain ⟨hbelow, hjoins, hstate⟩ := hearlier
    simp only at hbelow hjoins hstate ⊢
    obtain ⟨m, hchildren, hextras⟩ := (hjoins.append hpath).splitExtras
    have hextra : ∀ c ∈ (Subtree.splitExtras (earlier ++ group.2.headD [])).2, c.extra :=
      fun c hc => Subtree.extra_of_mem_splitExtras hc
    generalize Subtree.splitExtras (earlier ++ group.2.headD []) = split at hchildren hextras hextra ⊢
    obtain ⟨children, extras⟩ := split
    have hparts : Joins (if children.isEmpty then extras
          else (Subtree.wrap .error .plain below.place children).withExtra true :: extras) below.place top
        ∧ ∀ c ∈ (if children.isEmpty then extras
          else (Subtree.wrap .error .plain below.place children).withExtra true :: extras), c.extra := by
      split
      next hempty =>
        rw [List.isEmpty_iff.1 hempty] at hchildren
        rw [show below.place = m from hchildren.covers]
        exact ⟨hextras, hextra⟩
      next hempty =>
        refine ⟨hextras.cons (Subtree.covers_withExtra.2 (Subtree.covers_wrap hchildren.covers _ _ fun hnil => ?_))
          (Subtree.whole_error hchildren.whole), fun c hc => ?_⟩
        · exact absurd (List.isEmpty_iff.2 hnil) hempty
        · rcases List.mem_cons.1 hc with rfl | hc
          · rfl
          · exact hextra c hc
    have hbase : Reading.Sound source points sofar.1.fresh ⟨below, origin.nodesAtError, .active, none⟩ :=
      .of_isActive rfl hbelow
    obtain ⟨points', heq, hle, hpushed, hmark⟩ := hbase.pushAll (b := ⟨top, goal⟩) rfl hparts.1
      (hstate ▸ Subtree.followsAll_self goal hparts.1.whole hparts.2) fun c hc => hparts.2 c (List.mem_of_mem_tail hc)
    exact ⟨points', grows_append hp heq hle hpushed (hmark ▸ ⟨rfl, rfl⟩)⟩

theorem Sound.recoverTo (hp : p.Sound source held) (hv : ∀ m ∈ p.marks[v]?, m.active) (depth goal : Nat) :
    (p.recoverTo v depth goal).1.Sound source held ∧ p.marks <+: (p.recoverTo v depth goal).1.marks := by
  obtain ⟨points, hp⟩ := hp
  unfold Parser.recoverTo
  split
  · exact ⟨⟨points, hp⟩, List.prefix_rfl⟩
  next origin horigin =>
    have hactive : origin.isActive := hv _ (getElem?_marks horigin)
    have hends := ((hp.readings origin (List.mem_of_getElem? horigin)).active hactive).pop p.height depth
    obtain ⟨points', hgrows⟩ := List.foldlRecOn
      (motive := fun sofar : Parser × Bool =>
        ∃ points', Grows source held origin.stack.place points p points' sofar.1)
      (origin.stack.pop p.height depth) (addReturn origin goal) (b := (p, false)) ⟨points, .refl hp⟩
      fun sofar hsofar group hgroup => by
        obtain ⟨points', hgrows⟩ := hsofar
        obtain ⟨hstack, hne, hpaths⟩ := hends group hgroup
        obtain ⟨points'', hgrows'⟩ := grows_addReturn origin goal hgrows.sound
          ⟨hstack.mono hgrows.le hgrows.agree, hne, fun parts hparts => (hpaths parts hparts).joins⟩
        exact ⟨points'', hgrows.trans hgrows'⟩
    obtain ⟨more, hmarks, -⟩ := hgrows.marks
    exact ⟨⟨points', hgrows.sound⟩, hmarks ▸ List.prefix_append _ _⟩

theorem Sound.returnToState {token : Terminal} : ∀ {rungs : List Stack.Rung} {p : Parser}, p.Sound source held →
    (∀ m ∈ p.marks[v]?, m.active) → (p.returnToState v reading token rungs).1.Sound source held
      ∧ p.marks <+: (p.returnToState v reading token rungs).1.marks
  | [], p, hp, _ => ⟨hp, List.prefix_rfl⟩
  | rung :: rungs, p, hp, hv => by
    rw [Parser.returnToState]
    simp only
    split
    · exact Sound.returnToState hp hv
    · generalize hresult : p.betterExists v reading _ = result
      obtain ⟨q, pointless⟩ := result
      obtain ⟨hq, hmarks⟩ := hp.betterExists hresult
      rw [← hmarks] at hv ⊢
      simp only
      split
      · exact ⟨hq, List.prefix_rfl⟩
      · split
        · generalize (if 0 < reading.progress then rung.depth + 1 else rung.depth) = depth
          split
          · exact hq.recoverTo hv depth rung.state
          · exact Sound.returnToState hq hv
        · exact Sound.returnToState hq hv

/-! ## Skipping a token -/

theorem Sound.skip (hp : p.Sound source held) (hr : reading.stack ∈ held)
    (hv : ∀ m ∈ p.marks[v]?, m.ReadyAt reading.stack.place) (hc : lookahead.Covers reading.stack.place b) :
    (p.skip v reading lookahead).Sound source held := by
  have hskippable : (skippable lookahead).Covers reading.stack.place b := by
    unfold skippable
    split
    · exact Subtree.covers_withExtra.2 hc
    · exact Subtree.covers_withExtra.2 hc
    · exact hc
  have hskipped := Subtree.covers_wrap (Subtree.coversAll_singleton.2 hskippable) .skipped .plain
    (fun h => absurd h (List.cons_ne_nil _ _) : _ → reading.stack.place = b)
  have hbridges {a : Point} {here : Cursor} {children : List Subtree}
      (h : (Subtree.wrap .skipped .plain here children).Covers a.place b) :
      Bridges (some (Subtree.wrap .skipped .plain here children)) a ⟨b, errorState⟩ :=
    ⟨h, Subtree.whole_wrap_of_ne (by decide), rfl, rfl⟩
  unfold Parser.skip
  simp only
  split
  · refine (hp.push v (some _) (b := ⟨b, errorState⟩) fun m hm => ?_).1
    have hready := hv m hm
    exact ⟨hbridges (hready.place ▸ hskipped), fun _ => hready.active⟩
  · obtain ⟨points, hp⟩ := hp
    have hends := (hp.held _ hr).pop p.height 1
    split
    · exact ⟨points, hp⟩
    next stack paths others hpop =>
      rw [hpop] at hends
      obtain ⟨hbelow, hne, hpaths⟩ := hends _ List.mem_cons_self
      have hset : (p.set v ⟨stack, reading.nodesAtError, .active, reading.ladder⟩).Sound source held := by
        refine ⟨points, fun r hr => ?_, hp.held, hp.finished⟩
        rcases List.mem_or_eq_of_mem_set hr with hr | rfl
        · exact hp.readings r hr
        · exact .of_isActive rfl hbelow
      refine (hset.push v (some _) (b := ⟨b, errorState⟩) fun m hm => ?_).1
      have hmark : m = ⟨stack.point, true⟩ := by
        simp only [marks, set, List.getElem?_map, List.getElem?_set_self'] at hm
        obtain ⟨r, hr, rfl⟩ := Option.map_eq_some_iff.1 hm
        obtain ⟨-, -, rfl⟩ := Option.map_eq_some_iff.1 hr
        rfl
      rw [hmark]
      refine ⟨hbridges (Subtree.covers_wrap ?_ _ _ (by simp)), fun _ => rfl⟩
      refine Subtree.coversAll_append.2 ⟨_, ?_, Subtree.coversAll_singleton.2 hskipped⟩
      cases paths with
      | nil => exact absurd rfl hne
      | cons parts others => exact (hpaths parts List.mem_cons_self).joins.covers

/-- A reading passes a token in an error soundly, if it is where it was. -/
theorem Sound.pass (hp : p.Sound source held) (hr : reading.stack ∈ held)
    (hv : ∀ m ∈ p.marks[v]?, m.ReadyAt reading.stack.place) (hc : lookahead.Covers reading.stack.place b)
    (ht : lookahead.isToken) (returned : Bool) : (p.pass v reading lookahead returned).Sound source held := by
  unfold Parser.pass
  split
  · exact hp.halt v
  split
  · exact hp.acceptError hv hc ht
  · simp only
    generalize hresult : p.betterExists v reading _ = result
    obtain ⟨q, pointless⟩ := result
    obtain ⟨hq, hmarks⟩ := hp.betterExists hresult
    simp only
    split
    · exact hq.halt v
    · exact hq.skip hr (hmarks ▸ hv) hc

/-- A reading goes on soundly behind an error with the token that stands there. -/
theorem Sound.recover (hp : p.Sound source held) (hv : ∀ m ∈ p.marks[v]?, m.ReadyAt top)
    (hc : lookahead.Covers top b) (ht : lookahead.isToken) : (p.recover v lookahead).Sound source held := by
  unfold Parser.recover
  split
  · exact hp
  next reading hreading =>
    have hready : reading.mark.ReadyAt top := hv _ (getElem?_marks hreading)
    have hplace : reading.stack.place = top := hready.place
    obtain ⟨hlt, -⟩ := List.getElem?_eq_some_iff.1 hreading
    have hset : (p.set v reading.settle).Sound source (reading.stack :: held) := by
      refine (hp.hold (List.mem_of_getElem? hreading) hready.active).of_readings rfl rfl fun r hr => ?_
      rcases List.mem_or_eq_of_mem_set hr with hr | rfl
      · exact ⟨r, hr, fun _ _ h => h⟩
      · exact ⟨reading, List.mem_of_getElem? hreading, fun _ _ h => h.settle⟩
    have hself : (p.set v reading.settle).marks[v]? = some reading.mark := by
      simp only [marks, set, List.getElem?_map, List.getElem?_set_self hlt, Option.map_some]
      rfl
    -- Readings that return to an earlier state come behind, so this one is where it was.
    have hpass {q : Parser} (hq : q.Sound source (reading.stack :: held))
        (hbefore : (p.set v reading.settle).marks <+: q.marks) (returned : Bool) :
        (q.pass v reading.settle lookahead returned).Sound source (reading.stack :: held) := by
      obtain ⟨more, hmore⟩ := hbefore
      have hheld : reading.settle.stack ∈ reading.stack :: held := List.mem_cons_self
      refine hq.pass hheld (fun m hm => ?_) (hplace ▸ hc) ht returned
      rw [← hmore, List.getElem?_append_left (List.getElem?_eq_some_iff.1 hself).1, hself] at hm
      cases hm
      exact ⟨rfl, hready.active⟩
    refine Sound.release (s := reading.stack) ?_
    simp only
    split
    · obtain ⟨hq, hbefore⟩ := hset.returnToState (v := v) fun m hm => by
        rw [hself] at hm
        cases hm
        exact hready.active
      exact hpass hq hbefore _
    · exact hpass hset List.prefix_rfl _

/-! ## Inserting a token -/

/-- Where the readings are in the source, and which of them go on. -/
def positions (p : Parser) : List (Cursor × Bool) := p.marks.map fun m => (m.point.place, m.active)

theorem positions_extend (h : p.marks <+: q.marks) : p.positions <+: q.positions := h.map _

/-- The mark of an error leaves all readings where they are. -/
theorem Sound.push_none (hp : p.Sound source held) (v : Nat) :
    (p.push v none errorState).Sound source held ∧ (p.push v none errorState).positions = p.positions := by
  refine ⟨?_, ?_⟩
  · cases hm : p.marks[v]? with
    | none => exact (hp.push v none (b := ⟨.ofText source, errorState⟩) (by rw [hm]; nofun)).1
    | some m =>
      refine (hp.push v none (b := ⟨m.point.place, errorState⟩) fun m' hm' => ?_).1
      rw [hm] at hm'
      cases hm'
      exact ⟨rfl, nofun⟩
  · have hmarks : (p.push v none errorState).marks
        = p.marks.modify v fun m => ⟨⟨m.point.place, errorState⟩, m.active⟩ :=
      marks_modify p v fun _ _ => rfl
    rw [positions, positions, hmarks]
    refine List.ext_getElem? fun i => ?_
    simp only [List.getElem?_map, List.getElem?_modify, Option.map_eq_map, Option.map_map]
    refine congrArg (Option.map · p.marks[i]?) (funext fun m => ?_)
    simp only [Function.comp_apply]
    split <;> rfl

/-- A token inserted in a copy of a reading leaves the readings before the copy alone. -/
theorem Sound.insert (hp : p.Sound source held) (hr : reading.stack ∈ held) (hactive : reading.isActive)
    (t : Terminal) (hself : Grammar.targetOn reading.state t ≠ reading.state)
    (hne : Grammar.targetOn reading.state t ≠ errorState) (next : Option Terminal) :
    let q := (p.append { reading with ladder := none }).push p.readings.length
      (some (.leaf (.missing t) (.nothing reading.stack.place) false)) (Grammar.targetOn reading.state t)
    let swept := q.reduceAll p.readings.length q.readings.length next sweep 0 p.readings.length false
    swept.1.Sound source held ∧ p.marks <+: swept.1.marks := by
  intro q swept
  have hlength : p.readings.length = p.marks.length := (List.length_map _).symm
  have hcopy : (p.append { reading with ladder := none }).Sound source held := by
    obtain ⟨points, hp⟩ := hp
    refine ⟨points, fun r hr' => ?_, hp.held, hp.finished⟩
    rcases List.mem_append.1 hr' with hr' | hr'
    · exact hp.readings r hr'
    · cases List.mem_singleton.1 hr'
      exact .of_isActive hactive (hp.held _ hr)
  have hmarks : (p.append { reading with ladder := none }).marks = p.marks ++ [⟨reading.stack.point, true⟩] := by
    rw [marks, append, List.map_append, List.map_singleton]
    exact congrArg (fun active => p.marks ++ [⟨reading.stack.point, active⟩]) hactive
  have hmissing : (Subtree.leaf (.missing t) (.nothing reading.stack.place) false).Covers reading.stack.place
      reading.stack.place := by
    refine ⟨⟨_, .refl _, rfl, .refl _⟩, rfl, ?_⟩
    simp only [Leaf.Fits, Leaf.kind?]
    split
    · exact fun _ => rfl
    · exact .inl ⟨rfl, .inl rfl⟩
  have hfollows : (Subtree.leaf (.missing t) (.nothing reading.stack.place) false).Follows reading.state
      (Grammar.targetOn reading.state t) := by
    rw [Subtree.Follows, if_neg Bool.false_ne_true]
    exact ⟨rfl, t, rfl, .inr ⟨rfl, rfl, hself, hne⟩⟩
  obtain ⟨hpush, hpushed⟩ := hcopy.push p.readings.length
    (some (.leaf (.missing t) (.nothing reading.stack.place) false))
    (b := ⟨reading.stack.place, Grammar.targetOn reading.state t⟩) (fun m hm => by
      rw [hmarks, hlength, List.getElem?_concat_length] at hm
      cases hm
      exact ⟨⟨hmissing, .leaf (fun h => by cases h) (fun h => by cases h), hfollows⟩, fun _ => rfl⟩)
  rw [hmarks] at hpushed
  have hcount : q.readings.length = p.readings.length + 1 := by
    simp [q, Parser.push, Parser.modify, append]
  have hq : q.marks.length = q.readings.length := List.length_map _
  have hsweep : Sweep reading.stack.place q.marks p.readings.length q.readings.length next q.marks := by
    refine ⟨fun _ _ _ => rfl, fun i hi m hm => ?_, fun _ => Nat.le_of_eq hq.symm⟩
    have hi' : i = p.readings.length := by
      have := (List.getElem?_eq_some_iff.1 hm).1
      omega
    rw [show q.marks = _ from hpushed, hi', List.getElem?_modify_eq, hlength, List.getElem?_concat_length] at hm
    cases hm
    exact ⟨rfl, rfl⟩
  obtain ⟨hsound, hkept⟩ := Sound.reduceAll (by omega) (fun _ => hcount) sweep 0 p.readings.length false
    (show q.Sound source held from hpush) hsweep (.inl ⟨rfl, Nat.le_of_eq hq.symm⟩)
  refine ⟨hsound, List.prefix_iff_getElem?.2 fun i hi => ?_⟩
  rw [hkept.kept i (by omega) (by omega), show q.marks = _ from hpushed, List.getElem?_modify_ne _ _ (by omega),
    List.getElem?_append_left hi, List.getElem?_eq_getElem hi]

theorem Sound.insertMissing (hr : reading.stack ∈ held) (hactive : reading.isActive) (next : Terminal) :
    ∀ (terminals : List Terminal) {p : Parser}, p.Sound source held →
      (p.insertMissing v reading next terminals).1.Sound source held
        ∧ p.marks <+: (p.insertMissing v reading next terminals).1.marks
  | [], p, hp => ⟨hp, List.prefix_rfl⟩
  | t :: ts, p, hp => by
    have hwithout := Sound.insertMissing hr hactive next ts hp
    rw [Parser.insertMissing]
    simp only
    generalize (if next = .endOfInput then none else some next) = only
    split
    · split
      · exact hwithout
      next htest =>
        simp only [Bool.or_eq_true, decide_eq_true_eq, not_or] at htest
        obtain ⟨hq, hbefore⟩ := hp.insert hr hactive t htest.1.2 htest.1.1.2 only
        split
        · exact ⟨hq, hbefore⟩
        · obtain ⟨hq', hbefore'⟩ := Sound.insertMissing hr hactive next ts hq
          exact ⟨hq', hbefore.trans hbefore'⟩
    · rw [Bool.not_false, Bool.or_true, if_pos rfl]
      exact hwithout

theorem Sound.markErrors (next : Option Terminal) : ∀ (vs : List Nat) (inserted : Bool) {p : Parser},
    p.Sound source held → (∀ v ∈ vs, v < p.positions.length ∧ ∀ m ∈ p.positions[v]?, m.2 = true) →
    (Parser.markErrors next vs inserted p).Sound source held
      ∧ p.positions <+: (Parser.markErrors next vs inserted p).positions
  | [], _, p, hp, _ => ⟨hp, List.prefix_rfl⟩
  | v :: vs, inserted, p, hp, hvs => by
    obtain ⟨-, hactive⟩ := hvs v List.mem_cons_self
    have hstep {inserted : Bool} {q : Parser} (hq : q.Sound source held) (hbefore : p.positions <+: q.positions) :
        (Parser.markErrors next vs inserted (q.push v none errorState)).Sound source held
          ∧ p.positions <+: (Parser.markErrors next vs inserted (q.push v none errorState)).positions := by
      obtain ⟨hpush, hpositions⟩ := hq.push_none v
      obtain ⟨more, hmore⟩ := hbefore
      obtain ⟨hsound, hrest⟩ := Sound.markErrors next vs inserted hpush fun w hw => by
        obtain ⟨hlt, hw⟩ := hvs w (List.mem_cons_of_mem v hw)
        rw [hpositions, ← hmore, List.getElem?_append_left hlt, List.length_append]
        exact ⟨by omega, hw⟩
      rw [hpositions] at hrest
      exact ⟨hsound, List.IsPrefix.trans ⟨more, hmore⟩ hrest⟩
    rw [Parser.markErrors]
    split
    · exact Sound.markErrors next vs inserted hp fun w hw => hvs w (List.mem_cons_of_mem v hw)
    next reading hreading =>
      have hreading' : reading.isActive :=
        hactive (reading.stack.place, reading.isActive)
          (by rw [positions, List.getElem?_map, getElem?_marks hreading]; rfl)
      simp only
      split
      next t =>
        obtain ⟨hinsert, hbefore⟩ := Sound.insertMissing (v := v) List.mem_cons_self hreading' t Terminal.all
          (hp.hold (List.mem_of_getElem? hreading) hreading')
        exact hstep hinsert.release (positions_extend hbefore)
      next => exact hstep hp List.prefix_rfl

/-- A reading that cannot take the token behind it recovers soundly. -/
theorem Sound.handleError (hp : p.Sound source held) (hv : ∀ m ∈ p.marks[v]?, m.ReadyAt top)
    (hlt : v < p.marks.length) (hc : lookahead.Covers top b) (ht : lookahead.isToken) :
    (p.handleError v lookahead).Sound source held := by
  have hlength : p.readings.length = p.marks.length := (List.length_map _).symm
  unfold Parser.handleError
  simp only
  have hsweep : Sweep top p.marks v p.readings.length none p.marks := by
    refine ⟨fun _ _ _ => rfl, fun i hi m hm => ?_, fun _ => Nat.le_of_eq hlength⟩
    rcases hi with rfl | hi
    · exact hv m hm
    · have := (List.getElem?_eq_some_iff.1 hm).1
      omega
  obtain ⟨hreduced, hswept⟩ := hp.reduceAll (by omega) (fun h => absurd rfl h) sweep 0 v false hsweep
    (.inl ⟨rfl, Nat.le_of_eq hlength⟩)
  generalize (p.reduceAll v p.readings.length none sweep 0 v false).1 = q at hreduced hswept ⊢
  have hle : p.readings.length ≤ q.marks.length := hswept.length rfl
  have hq : q.readings.length = q.marks.length := (List.length_map _).symm
  have hpositions : q.positions.length = q.marks.length := List.length_map _
  have hready (w : Nat) (hw : w = v ∨ p.readings.length ≤ w) : ∀ m ∈ q.positions[w]?, m = (top, true) := by
    intro m hm
    rw [positions, List.getElem?_map] at hm
    obtain ⟨m', hm', rfl⟩ := Option.map_eq_some_iff.1 hm
    have h := hswept.ready w hw m' hm'
    rw [h.place, h.active]
  obtain ⟨hmarked, hbefore⟩ := Sound.markErrors lookahead.firstTerminal?
    (v :: (List.range (q.readings.length - p.readings.length)).map (p.readings.length + ·)) false hreduced
    fun w hw => by
      rcases List.mem_cons.1 hw with rfl | hw
      · exact ⟨by omega, fun m hm => by rw [hready w (.inl rfl) m hm]⟩
      · obtain ⟨i, hi, rfl⟩ := List.mem_map.1 hw
        have := List.mem_range.1 hi
        exact ⟨by omega, fun m hm => by rw [hready _ (.inr (by omega)) m hm]⟩
  generalize Parser.markErrors lookahead.firstTerminal? _ false q = q' at hmarked hbefore ⊢
  have hreadyv : ∀ m ∈ q'.marks[v]?, m.ReadyAt top := by
    intro m hm
    obtain ⟨more, hmore⟩ := hbefore
    have hposition : q'.positions[v]? = some (m.point.place, m.active) := by rw [positions, List.getElem?_map, hm]; rfl
    rw [← hmore, List.getElem?_append_left (by omega)] at hposition
    have h := hready v (.inl rfl) _ hposition
    exact ⟨congrArg Prod.fst h, congrArg Prod.snd h⟩
  have hmerged := List.foldlRecOn (motive := fun q : Parser => q.Sound source held ∧ ∀ m ∈ q.marks[v]?, m.ReadyAt top)
    (List.range (q.readings.length - p.readings.length)) (fun p' _ => (p'.merge? v p.readings.length).getD p')
    ⟨hmarked, hreadyv⟩ fun q ⟨hq, hm⟩ _ _ => by
      cases hmerge : q.merge? v p.readings.length with
      | none => exact ⟨hq, hm⟩
      | some q' =>
        obtain ⟨hsound, hmarks⟩ := hq.merge? hmerge
        refine ⟨hsound, ?_⟩
        rw [Option.getD_some, hmarks, List.getElem?_eraseIdx_of_lt (by omega)]
        exact hm
  obtain ⟨hsound, hm⟩ := hmerged
  refine Sound.recover (hsound.modify v fun _ _ _ h => ⟨h.stack, h.lookahead⟩) ?_ hc ht
  rw [marks_modify_self]
  · exact hm
  · exact fun _ => rfl

end Return

end Parser
end Bookmarklet.Script
