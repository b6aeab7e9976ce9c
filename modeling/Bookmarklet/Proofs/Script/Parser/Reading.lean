import Mathlib.Data.List.InsertIdx
import Bookmarklet.Proofs.Script.Parser.Stack
import Bookmarklet.Script.Parser.Recovery

/-!
# Readings that cover their text

A reading is sound if its stack is and if the token that it has stopped at covers the text behind the stack; of a
reading that was given up nothing more is known (`Reading.Sound`). A parser is sound if its readings are and the
finished parse covers the source from its start and has a root that the table accepts (`Parser.Sound`). Reducing and
merging keep a parser sound. Readings keep their places in the list, in the source and in the table on the way; the
marks of a parser tell these (`Parser.marks`).
-/

namespace Bookmarklet.Script

open Grammar (errorState startState moves targetOf Reduces)

/-- Where a reading has come to, and whether it goes on. -/
structure Mark where
  point : Point
  active : Bool

/-- The mark of a reading that goes on at a place. -/
structure Mark.ReadyAt (top : Cursor) (m : Mark) : Prop where
  place : m.point.place = top
  active : m.active = true

namespace Reading

/-- The stack of a reading is sound unless the reading was given up, and the token that it has stopped at covers the
text behind. -/
structure Sound (source : List Char) (points : Nat → Point) (fresh : Nat) (r : Reading) : Prop where
  stack : r.isHalted = false → r.stack.Sound source points fresh
  lookahead : ∀ l, r.status = .paused l → l.isToken ∧ ∃ b, l.Covers r.stack.place b

/-- Where a reading has come to, and whether it goes on. -/
def mark (r : Reading) : Mark := ⟨r.stack.point, r.isActive⟩

section Sound

variable {source : List Char} {points : Nat → Point} {fresh : Nat} {r l : Reading}

theorem isHalted_of_isActive (h : r.isActive) : r.isHalted = false := by
  unfold isActive at h
  unfold isHalted
  split at h
  next heq => rw [heq]
  next => cases h

theorem status_ne_paused (h : r.isActive) (s : Subtree) : r.status ≠ .paused s := by
  intro hs
  rw [isActive, hs] at h
  cases h

theorem Sound.of_isActive (h : r.isActive) (hs : r.stack.Sound source points fresh) : r.Sound source points fresh :=
  ⟨fun _ => hs, fun l hl => absurd hl (status_ne_paused h l)⟩

/-- Nothing need be known of a reading that was given up. -/
theorem Sound.of_isHalted (h : r.isHalted) : r.Sound source points fresh where
  stack := fun hh => by
    rw [h] at hh
    cases hh
  lookahead := fun l hl => by
    rw [isHalted, hl] at h
    cases h

theorem Sound.active (h : r.Sound source points fresh) (ha : r.isActive) : r.stack.Sound source points fresh :=
  h.stack (isHalted_of_isActive ha)

theorem Sound.mono {points' : Nat → Point} {fresh' : Nat} (h : r.Sound source points fresh) (hle : fresh ≤ fresh')
    (heq : ∀ i < fresh, points' i = points i) : r.Sound source points' fresh' :=
  ⟨fun hh => (h.stack hh).mono hle heq, h.lookahead⟩

/-- A part pushed in a reading that goes on, or the mark of an error in any reading. -/
theorem Sound.push {part : Option Subtree} {b : Point} (h : r.Sound source points fresh)
    (hb : Bridges part r.stack.point b) (ha : part.isSome → r.isActive) :
    (r.push fresh part b.state).Sound source (Function.update points fresh b) (fresh + 1) := by
  refine ⟨fun hh => (h.stack hh).push hb, fun l hl => ?_⟩
  cases part with
  | none => exact h.lookahead l hl
  | some part => exact absurd hl (status_ne_paused (ha rfl) l)

theorem mark_push {part : Option Subtree} {b : Point} (hb : Bridges part r.stack.point b) (id : Nat) :
    (r.push id part b.state).mark = ⟨b, r.isActive⟩ :=
  congrArg (Mark.mk · r.isActive) (Stack.point_push hb id)

/-- Readings that may be merged are at one point, and both go on. -/
theorem Sound.of_mergeable (hl : l.Sound source points fresh) (hr : r.Sound source points fresh)
    (h : l.mergeable r) : l.isActive ∧ r.isActive ∧ l.stack.point = r.stack.point := by
  simp only [mergeable, Bool.and_eq_true] at h
  obtain ⟨⟨hl', hr'⟩, hm⟩ := h
  exact ⟨hl', hr', (hl.active hl').point_eq_of_mergeable (hr.active hr') hm⟩

theorem Sound.merge (fuel : Nat) (hl : l.Sound source points fresh) (hr : r.Sound source points fresh)
    (h : l.mergeable r) :
    (l.merge fuel r).Sound source points fresh ∧ (l.merge fuel r).mark = l.mark := by
  obtain ⟨hl', hr', hpoint⟩ := hl.of_mergeable hr h
  obtain ⟨hstack, hsame⟩ := (hl.active hl').merge fuel (hr.active hr') hpoint
  exact ⟨.of_isActive hl' hstack, congrArg (Mark.mk · l.isActive) hsame⟩

theorem Sound.settle (h : r.Sound source points fresh) : r.settle.Sound source points fresh := ⟨h.stack, h.lookahead⟩

/-! ## Pushing several parts -/

/-- Parts pushed under one state: all but the first are extra. -/
theorem Sound.pushAll {b : Point} : ∀ {parts : List Subtree} {points : Nat → Point} {fresh : Nat}
    {r : Reading}, r.Sound source points fresh → r.isActive → Joins parts r.stack.place b.place →
    Subtree.FollowsAll parts r.stack.state b.state → (∀ c ∈ parts.tail, c.extra) →
    ∃ points', (∀ i < fresh, points' i = points i) ∧ fresh ≤ (Reading.pushAll b.state parts (r, fresh)).2
      ∧ (Reading.pushAll b.state parts (r, fresh)).1.Sound source points' (Reading.pushAll b.state parts (r, fresh)).2
      ∧ (Reading.pushAll b.state parts (r, fresh)).1.mark = ⟨b, true⟩
  | [], points, fresh, r, h, ha, hj, hf, _ => by
    refine ⟨points, fun _ _ => rfl, Nat.le_refl fresh, h, ?_⟩
    have hpoint : r.stack.point = b := by
      rw [Stack.point, show r.stack.place = b.place from hj.covers, show _ = _ from hf]
    exact congrArg₂ Mark.mk hpoint ha
  | part :: parts, points, fresh, r, h, ha, hj, ⟨state, hpart, hparts⟩, he => by
    obtain ⟨m, hc, hrest⟩ := hj.covers
    cases hparts.eq_of_extra he
    have hb : Bridges (some part) r.stack.point ⟨m, b.state⟩ := ⟨hc, hj.whole part List.mem_cons_self, hpart⟩
    have hpoint : (r.push fresh (some part) b.state).stack.point = ⟨m, b.state⟩ := Stack.point_push hb fresh
    have hjoins : Joins parts (r.push fresh (some part) b.state).stack.place b.place := by
      rw [show (r.push fresh (some part) b.state).stack.place = m from congrArg Point.place hpoint]
      exact ⟨hrest, fun c hc => hj.whole c (List.mem_cons_of_mem part hc)⟩
    obtain ⟨points', heq, hle, hsound, hmark⟩ := Sound.pushAll (h.push hb fun _ => ha) ha hjoins hparts
      fun c hc => he c (List.mem_of_mem_tail hc)
    refine ⟨points', fun i hi => ?_, by exact Nat.le_of_succ_le hle, hsound, hmark⟩
    rw [heq i (Nat.lt_succ_of_lt hi), Function.update_of_ne (Nat.ne_of_lt hi)]

end Sound

end Reading

namespace Parser

/-! ## Soundness -/

/-- The root of a finished parse: an error, or what is made of parts that lead from the first state to one that accepts
the token behind them. -/
def Rooted (s : Subtree) : Prop :=
  s.symbol = .error ∧ 0 < s.cost
    ∨ ∃ parts lookahead state t, Subtree.FollowsAll parts startState state ∧ lookahead.isToken
      ∧ lookahead.symbol = .terminal t ∧ .accept ∈ moves state t ∧ root? (parts ++ [lookahead]) = some s

/-- The readings of a parser are sound, and so are some stacks that are held aside; the finished parse covers the
source from its start, and has a root. -/
structure SoundAt (source : List Char) (held : List Stack) (points : Nat → Point) (p : Parser) : Prop where
  readings : ∀ r ∈ p.readings, r.Sound source points p.fresh
  held : ∀ s ∈ held, s.Sound source points p.fresh
  finished : ∀ s ∈ p.finished, (∃ b, s.Covers (.ofText source) b) ∧ Rooted s

/-- A parser is sound for some assignment of points to the numbers of its stacks. -/
def Sound (source : List Char) (held : List Stack) (p : Parser) : Prop := ∃ points, p.SoundAt source held points

/-- The marks of the readings. -/
def marks (p : Parser) : List Mark := p.readings.map (·.mark)

section Sound

variable {source : List Char} {held : List Stack} {points : Nat → Point} {p q : Parser} {v : Nat}

theorem sound_start (source : List Char) : (start source).Sound source [] := by
  refine ⟨fun _ => ⟨.ofText source, startState⟩, fun r hr => ?_, nofun, nofun⟩
  cases List.mem_singleton.1 hr
  exact .of_isActive rfl (Stack.bottom_sound source)

/-- The stack of a reading that goes on may be held aside. -/
theorem Sound.hold (hp : p.Sound source held) {r : Reading} (hr : r ∈ p.readings) (ha : r.isActive) :
    p.Sound source (r.stack :: held) := by
  obtain ⟨points, hp⟩ := hp
  refine ⟨points, hp.readings, fun s hs => ?_, hp.finished⟩
  rcases List.mem_cons.1 hs with rfl | hs
  · exact (hp.readings r hr).active ha
  · exact hp.held s hs

theorem Sound.release {s : Stack} (hp : p.Sound source (s :: held)) : p.Sound source held := by
  obtain ⟨points, hp⟩ := hp
  exact ⟨points, hp.readings, fun t ht => hp.held t (List.mem_cons_of_mem s ht), hp.finished⟩

/-- A parser is sound if its readings are as sound as those of another one. -/
theorem Sound.of_readings (hp : p.Sound source held) (hf : q.fresh = p.fresh) (hd : q.finished = p.finished)
    (h : ∀ r ∈ q.readings, ∃ r' ∈ p.readings, ∀ points fresh, r'.Sound source points fresh →
      r.Sound source points fresh) : q.Sound source held := by
  obtain ⟨points, hp⟩ := hp
  refine ⟨points, fun r hr => ?_, hf ▸ hp.held, hd ▸ hp.finished⟩
  obtain ⟨r', hr', himp⟩ := h r hr
  exact hf ▸ himp points p.fresh (hp.readings r' hr')

theorem getElem?_marks {r : Reading} (h : p.readings[v]? = some r) : p.marks[v]? = some r.mark := by
  rw [marks, List.getElem?_map, h, Option.map_some]

theorem readings_modify_self (p : Parser) (v : Nat) (f : Reading → Reading) :
    (p.modify v f).readings[v]? = p.readings[v]?.map f := List.getElem?_modify_eq ..

theorem readings_modify_of_ne (p : Parser) {i v : Nat} (h : i ≠ v) (f : Reading → Reading) :
    (p.modify v f).readings[i]? = p.readings[i]? := List.getElem?_modify_ne _ _ h.symm

theorem mem_modify {f : Reading → Reading} {r : Reading} (h : r ∈ (p.modify v f).readings) :
    r ∈ p.readings ∨ ∃ r', p.readings[v]? = some r' ∧ r = f r' := by
  obtain ⟨i, hi⟩ := List.mem_iff_getElem?.1 h
  simp only [modify, List.getElem?_modify] at hi
  obtain ⟨r', hr', heq⟩ := Option.map_eq_some_iff.1 hi
  split at heq
  next hv => exact .inr ⟨r', hv ▸ hr', heq.symm⟩
  next => exact .inl (heq ▸ List.mem_of_getElem? hr')

theorem marks_modify (p : Parser) (v : Nat) {f : Reading → Reading} {g : Mark → Mark}
    (h : ∀ r, p.readings[v]? = some r → (f r).mark = g r.mark) : (p.modify v f).marks = p.marks.modify v g := by
  refine List.ext_getElem? fun i => ?_
  simp only [marks, modify, List.getElem?_map, List.getElem?_modify, Option.map_eq_map, Option.map_map]
  cases hr : p.readings[i]? with
  | none => rfl
  | some r =>
    simp only [Option.map_some, Function.comp_apply]
    split
    next hv => rw [h r (hv ▸ hr)]
    next => rfl

theorem marks_modify_self {f : Reading → Reading} (h : ∀ r, (f r).mark = r.mark) : (p.modify v f).marks = p.marks := by
  rw [marks_modify p v (g := id) fun r _ => h r, List.modify_id]

theorem Sound.modify (hp : p.Sound source held) (v : Nat) {f : Reading → Reading}
    (hf : ∀ r points fresh, r.Sound source points fresh → (f r).Sound source points fresh) :
    (p.modify v f).Sound source held := by
  refine hp.of_readings rfl rfl fun r hr => ?_
  rcases mem_modify hr with hr | ⟨r', hr', rfl⟩
  · exact ⟨r, hr, fun _ _ h => h⟩
  · exact ⟨r', List.mem_of_getElem? hr', hf r'⟩

theorem Sound.remove (hp : p.Sound source held) (v : Nat) : (p.remove v).Sound source held :=
  hp.of_readings rfl rfl fun r hr => ⟨r, List.mem_of_mem_eraseIdx hr, fun _ _ h => h⟩

theorem marks_remove (p : Parser) (v : Nat) : (p.remove v).marks = p.marks.eraseIdx v := by
  rw [marks, marks, remove, List.eraseIdx_map]

theorem Sound.halt (hp : p.Sound source held) (v : Nat) : (p.halt v).Sound source held :=
  hp.modify v fun _ _ _ _ => .of_isHalted rfl

/-- A part pushed in a reading that goes on, or the mark of an error in any reading. -/
theorem Sound.push (hp : p.Sound source held) (v : Nat) (part : Option Subtree) {b : Point}
    (hb : ∀ m ∈ p.marks[v]?, Bridges part m.point b ∧ (part.isSome → m.active)) :
    (p.push v part b.state).Sound source held
      ∧ (p.push v part b.state).marks = p.marks.modify v fun m => ⟨b, m.active⟩ := by
  have hbridges {r : Reading} (hr : p.readings[v]? = some r) := hb _ (getElem?_marks hr)
  obtain ⟨points, hp⟩ := hp
  have hmono : ∀ i < p.fresh, Function.update points p.fresh b i = points i :=
    fun i hi => Function.update_of_ne (Nat.ne_of_lt hi) b points
  refine ⟨⟨Function.update points p.fresh b, fun r hr => ?_, fun s hs => (hp.held s hs).mono (Nat.le_succ _) hmono,
    hp.finished⟩, marks_modify p v fun r hr => ?_⟩
  · rcases mem_modify hr with hr | ⟨r', hr', rfl⟩
    · exact (hp.readings r hr).mono (Nat.le_succ _) hmono
    · exact (hp.readings r' (List.mem_of_getElem? hr')).push (hbridges hr').1 (hbridges hr').2
  · exact Reading.mark_push (hbridges hr).1 p.fresh

/-- A merger drops the mark of the reading merged, and changes no other. -/
theorem Sound.merge? (hp : p.Sound source held) {target source' : Nat} (h : p.merge? target source' = some q) :
    q.Sound source held ∧ q.marks = p.marks.eraseIdx source' := by
  unfold Parser.merge? at h
  split at h
  next l r hl hr =>
    split at h
    next hm =>
      cases h
      obtain ⟨points, hp⟩ := hp
      obtain ⟨hsound, hmark⟩ := (hp.readings l (List.mem_of_getElem? hl)).merge p.height
        (hp.readings r (List.mem_of_getElem? hr)) hm
      refine ⟨⟨points, fun r' hr' => ?_, hp.held, hp.finished⟩, ?_⟩
      · rcases List.mem_or_eq_of_mem_set (List.mem_of_mem_eraseIdx hr') with hr' | rfl
        · exact hp.readings r' hr'
        · exact hsound
      · rw [marks_remove]
        refine congrArg (List.eraseIdx · source') (List.ext_getElem? fun i => ?_)
        simp only [marks, set, List.map_set, hmark, List.getElem?_set, List.length_map]
        split
        next hi =>
          subst hi
          obtain ⟨hlt, -⟩ := List.getElem?_eq_some_iff.1 hl
          rw [if_pos hlt, List.getElem?_map, hl, Option.map_some]
        next => rfl
    next => cases h
  next => cases h

/-- A reading that is renumbered takes its mark along. -/
theorem Sound.renumber (hp : p.Sound source held) (source' target : Nat) :
    (p.renumber source' target).Sound source held ∧ ((p.renumber source' target).marks = p.marks
      ∨ ∃ m ∈ p.marks[source']?,
        (p.renumber source' target).marks = (p.marks.modify target fun _ => m).eraseIdx source') := by
  unfold Parser.renumber
  split
  · exact ⟨hp, .inl rfl⟩
  · split
    · exact ⟨hp, .inl rfl⟩
    next r hr =>
      refine ⟨?_, .inr ⟨r.mark, getElem?_marks hr, ?_⟩⟩
      · have hmodify : (p.modify target fun old => { r with ladder := r.ladder.or old.ladder }).Sound source held := by
          refine hp.of_readings rfl rfl fun r' hr' => ?_
          rcases mem_modify hr' with hr' | ⟨old, -, rfl⟩
          · exact ⟨r', hr', fun _ _ h => h⟩
          · exact ⟨r, List.mem_of_getElem? hr, fun _ _ h => ⟨h.stack, h.lookahead⟩⟩
        exact hmodify.remove source'
      · rw [marks_remove]
        exact congrArg (List.eraseIdx · source') (marks_modify p target (g := fun _ => r.mark) fun _ _ => rfl)

end Sound

/-! ## Reducing -/

/-- What a reduction makes of the parts between two points stands between their points, and leads on as the table says;
the parts behind it are extra. -/
theorem climbs_wrapPaths {r : Grammar.Reduction} {a b : Point} (hr : Reduces b.state r) {paths : List (List Subtree)}
    (hne : paths ≠ []) (h : ∀ parts ∈ paths, Climbs parts r.width a b) :
    Joins ((wrapPaths r a.place paths).1 :: (wrapPaths r a.place paths).2) a.place b.place
      ∧ (wrapPaths r a.place paths).1.Follows a.state (targetOf a.state r.result)
      ∧ ∀ c ∈ (wrapPaths r a.place paths).2, c.extra := by
  have hb : b.state ≠ errorState := hr.ne_errorState
  have hwrap {parts : List Subtree} (hc : Climbs parts r.width a b) :
      Joins (Subtree.wrap (.construct r.result) r.shape a.place (Subtree.splitExtras parts).1
          :: (Subtree.splitExtras parts).2) a.place b.place
        ∧ (Subtree.wrap (.construct r.result) r.shape a.place (Subtree.splitExtras parts).1).Follows a.state
          (targetOf a.state r.result)
        ∧ ∀ c ∈ (Subtree.splitExtras parts).2, c.extra := by
    obtain ⟨m, hchildren, hextras⟩ := hc.joins.splitExtras
    obtain ⟨hfollows, hwidth⟩ := hc.reaches.splitExtras hb
    refine ⟨hextras.cons (Subtree.covers_wrap hchildren.covers _ _ fun hnil => ?_) (Subtree.whole_wrap nofun),
      ⟨rfl, rfl, b.state, r, hfollows, hwidth, hr, rfl, rfl⟩, fun c hc => Subtree.extra_of_mem_splitExtras hc⟩
    rw [hnil] at hchildren
    exact hchildren.covers
  cases paths with
  | nil => exact absurd rfl hne
  | cons first others =>
    refine List.foldlRecOn (motive := fun best : Subtree × List Subtree => Joins (best.1 :: best.2) a.place b.place
      ∧ best.1.Follows a.state (targetOf a.state r.result) ∧ ∀ c ∈ best.2, c.extra) others _
      (hwrap (h first List.mem_cons_self)) fun best hbest path hpath => ?_
    simp only
    split
    · exact hwrap (h path (List.mem_cons_of_mem first hpath))
    · exact hbest

/-- From one parser to the next the numbers in use keep their points, and the readings their marks; the readings that
are added all go on at one place. -/
structure Grows (source : List Char) (held : List Stack) (top : Cursor) (points : Nat → Point) (p : Parser)
    (points' : Nat → Point) (q : Parser) : Prop where
  sound : q.SoundAt source held points'
  agree : ∀ i < p.fresh, points' i = points i
  le : p.fresh ≤ q.fresh
  marks : ∃ more, q.marks = p.marks ++ more ∧ ∀ m ∈ more, m.ReadyAt top

section Grows

variable {source : List Char} {held : List Stack} {top : Cursor} {points points' points'' : Nat → Point}
  {p q s : Parser} {v : Nat}

theorem Grows.refl (h : p.SoundAt source held points) : Grows source held top points p points p :=
  ⟨h, fun _ _ => rfl, Nat.le_refl _, [], (List.append_nil _).symm, nofun⟩

theorem Grows.trans (h : Grows source held top points p points' q) (h' : Grows source held top points' q points'' s) :
    Grows source held top points p points'' s := by
  refine ⟨h'.sound, fun i hi => ?_, Nat.le_trans h.le h'.le, ?_⟩
  · rw [h'.agree i (Nat.lt_of_lt_of_le hi h.le), h.agree i hi]
  · obtain ⟨more, hmore, hready⟩ := h.marks
    obtain ⟨more', hmore', hready'⟩ := h'.marks
    exact ⟨more ++ more', by rw [hmore', hmore, List.append_assoc],
      fun m hm => (List.mem_append.1 hm).elim (hready m) (hready' m)⟩

/-- A sound reading behind all others. -/
theorem grows_append {r : Reading} {fresh : Nat} (hp : p.SoundAt source held points)
    (heq : ∀ i < p.fresh, points' i = points i) (hle : p.fresh ≤ fresh) (hr : r.Sound source points' fresh)
    (hmark : r.mark.ReadyAt top) :
    Grows source held top points p points' ({ p with fresh }.append r) := by
  refine ⟨⟨fun r' hr' => ?_, fun s hs => (hp.held s hs).mono hle heq, hp.finished⟩, heq, hle, [r.mark], ?_, ?_⟩
  · rcases List.mem_append.1 hr' with hr' | hr'
    · exact (hp.readings r' hr').mono hle heq
    · cases List.mem_singleton.1 hr'
      exact hr
  · rw [Parser.marks, append, List.map_append, List.map_singleton]
    rfl
  · rintro _ (_ | ⟨_, ⟨⟩⟩)
    exact hmark

/-- The reading that a reduction leads to is at the place where the reduction began. -/
theorem grows_addReduced (v : Nat) (origin : Reading) (halted : Nat) {r : Grammar.Reduction} {state : Nat}
    (hr : Reduces state r) {group : Stack × List (List Subtree)} (hp : p.SoundAt source held points)
    (hg : group.1.Sound source points p.fresh ∧ group.2 ≠ []
      ∧ ∀ parts ∈ group.2, Climbs parts r.width group.1.point ⟨top, state⟩) :
    ∃ points', Grows source held top points p points' (addReduced v origin halted r p group) := by
  obtain ⟨stack, paths⟩ := group
  obtain ⟨hstack, hne, hpaths⟩ := hg
  have hclimbs := climbs_wrapPaths hr hne hpaths
  unfold addReduced
  split
  · exact ⟨points, .refl hp⟩
  simp only at hclimbs ⊢
  rw [show stack.point.place = stack.place from rfl, show stack.point.state = stack.state from rfl] at hclimbs
  generalize wrapPaths r stack.place paths = wrapped at hclimbs ⊢
  obtain ⟨part, extras⟩ := wrapped
  obtain ⟨hjoins, hfollows, hextra⟩ := hclimbs
  obtain ⟨m, hc, hextras⟩ := hjoins.covers
  have hwhole : ∀ c ∈ extras, c.Whole := fun c hc => hjoins.whole c (List.mem_cons_of_mem part hc)
  have hprefer : Joins (part.prefer r.preference :: extras) stack.place top :=
    .cons (Subtree.covers_prefer.2 hc) ((hjoins.whole part List.mem_cons_self).prefer _) ⟨hextras, hwhole⟩
  have hbase : Reading.Sound source points p.fresh ⟨stack, origin.nodesAtError, .active, none⟩ :=
    .of_isActive rfl hstack
  obtain ⟨points', heq, hle, hsound, hmark⟩ := hbase.pushAll (b := ⟨top, targetOf stack.state r.result⟩) rfl hprefer
    ⟨_, Subtree.follows_prefer.2 hfollows, Subtree.followsAll_self _ hwhole hextra⟩ hextra
  generalize Reading.pushAll (targetOf stack.state r.result) (part.prefer r.preference :: extras)
    (⟨stack, origin.nodesAtError, .active, none⟩, p.fresh) = pushed at hle hsound hmark ⊢
  obtain ⟨reading, fresh⟩ := pushed
  have hgrown : SoundAt source held points' { p with fresh } := ⟨fun r hr => (hp.readings r hr).mono hle heq,
    fun s hs => (hp.held s hs).mono hle heq, hp.finished⟩
  split
  next j hj =>
    -- Another reading has come to the same place, and takes the new one in.
    obtain ⟨⟨other, j'⟩, hfind, rfl⟩ := Option.map_eq_some_iff.1 hj
    have hother := List.mk_mem_zipIdx_iff_getElem?.1 (List.mem_of_find?_eq_some hfind)
    have hmergeable : other.mergeable reading := by
      have htest := List.find?_some hfind
      simp only [Bool.and_eq_true] at htest
      exact htest.2
    have hmerged (r : Reading) (hr : p.readings[j']? = some r) :=
      (hgrown.readings r (List.mem_of_getElem? hr)).merge { p with fresh }.height hsound
        (by rw [hother] at hr; cases hr; exact hmergeable)
    refine ⟨points', ⟨fun r hr => ?_, hgrown.held, hp.finished⟩, heq, hle, [], ?_, nofun⟩
    · rcases mem_modify hr with hr | ⟨r', hr', rfl⟩
      · exact hgrown.readings r hr
      · exact (hmerged r' hr').1
    · refine (marks_modify { p with fresh } j' (g := id) fun r hr => (hmerged r hr).2).trans ?_
      simp [Parser.marks]
  next => exact ⟨points', grows_append hp heq hle hsound (hmark ▸ ⟨rfl, rfl⟩)⟩

/-- A reduction only adds readings, at the place of the reading reduced. -/
theorem Sound.reduce (hp : p.Sound source held) {r : Grammar.Reduction}
    (hv : ∀ m ∈ p.marks[v]?, m.ReadyAt top ∧ Reduces m.point.state r) :
    (p.reduce v r).1.Sound source held
      ∧ ∃ more, (p.reduce v r).1.marks = p.marks ++ more ∧ ∀ m ∈ more, m.ReadyAt top := by
  obtain ⟨points, hp⟩ := hp
  have hgrows : ∃ points', Grows source held top points p points' (p.reduce v r).1 := by
    unfold Parser.reduce
    split
    · exact ⟨points, .refl hp⟩
    next origin horigin =>
      obtain ⟨hready, hr⟩ := hv _ (getElem?_marks horigin)
      have hends := ((hp.readings origin (List.mem_of_getElem? horigin)).active hready.active).pop p.height r.width
      rw [show origin.stack.point = ⟨top, origin.stack.state⟩ from congrArg (Point.mk · _) hready.place] at hends
      refine List.foldlRecOn (motive := fun q => ∃ points', Grows source held top points p points' q)
        (origin.stack.pop p.height r.width) (addReduced v origin (p.readings.countP (·.isHalted)) r)
        ⟨points, .refl hp⟩ fun q ⟨points', hq⟩ group hgroup => ?_
      obtain ⟨hstack, hne, hpaths⟩ := hends group hgroup
      obtain ⟨points'', hq'⟩ := grows_addReduced v origin _ hr hq.sound ⟨hstack.mono hq.le hq.agree, hne, hpaths⟩
      exact ⟨points'', hq.trans hq'⟩
  obtain ⟨points', hgrows⟩ := hgrows
  exact ⟨⟨points', hgrows.sound⟩, hgrows.marks⟩

end Grows

/-! ## Sweeps of reductions -/

/-- What a sweep of reductions from the reading `first` keeps: the other readings before `initial` have the marks they
had; that reading and the ones behind go on at one place. Only a sweep for a given token drops the reading it began
with. -/
structure Sweep (top : Cursor) (marks : List Mark) (first initial : Nat) (lookahead : Option Terminal)
    (now : List Mark) : Prop where
  kept : ∀ i < initial, i ≠ first → now[i]? = marks[i]?
  ready : ∀ i, i = first ∨ initial ≤ i → ∀ m ∈ now[i]?, m.ReadyAt top
  length : lookahead = none → initial ≤ now.length

section Sweep

variable {source : List Char} {held : List Stack} {top : Cursor} {marks now : List Mark} {first initial v : Nat}
  {lookahead : Option Terminal}

theorem Sweep.erase (h : Sweep top marks first initial lookahead now) (hlt : v < now.length)
    (hv : initial ≤ v ∨ (v = first ∧ initial = first + 1 ∧ lookahead ≠ none)) :
    Sweep top marks first initial lookahead (now.eraseIdx v) where
  kept := fun i hi hne => by
    rw [List.getElem?_eraseIdx_of_lt (by omega)]
    exact h.kept i hi hne
  ready := fun i hi m hm => by
    rw [List.getElem?_eraseIdx] at hm
    split at hm
    · exact h.ready i hi m hm
    · exact h.ready (i + 1) (by omega) m hm
  length := fun hl => by
    rcases hv with hv | ⟨-, -, hsome⟩
    · rw [List.length_eraseIdx_of_lt hlt]
      omega
    · exact absurd hl hsome

theorem Sweep.append (h : Sweep top marks first initial lookahead now) (hle : initial ≤ now.length) {more : List Mark}
    (hmore : ∀ m ∈ more, m.ReadyAt top) : Sweep top marks first initial lookahead (now ++ more) where
  kept := fun i hi hne => by
    rw [List.getElem?_append_left (by omega)]
    exact h.kept i hi hne
  ready := fun i hi m hm => by
    rw [List.getElem?_append] at hm
    split at hm
    · exact h.ready i hi m hm
    · exact hmore m (List.mem_of_getElem? hm)
  length := fun _ => by
    rw [List.length_append]
    omega

theorem Sweep.replace (h : Sweep top marks first initial lookahead now) (hv : v = first ∨ initial ≤ v) {m : Mark}
    (hm : m.ReadyAt top) : Sweep top marks first initial lookahead (now.modify v fun _ => m) where
  kept := fun i hi hne => by
    rw [List.getElem?_modify_ne _ _ (by omega)]
    exact h.kept i hi hne
  ready := fun i hi m' hm' => by
    rw [List.getElem?_modify] at hm'
    obtain ⟨old, hold, heq⟩ := Option.map_eq_some_iff.1 hm'
    split at heq
    · exact heq ▸ hm
    · exact heq ▸ h.ready i hi old hold
  length := fun hl => by
    rw [List.length_modify]
    exact h.length hl

/-- A reading takes the place of the one that a sweep has reduced. -/
theorem Sweep.renumber {p : Parser} (hp : p.Sound source held) (h : Sweep top marks first initial lookahead p.marks)
    {created : Nat} (hc : initial ≤ created) (hv : v = first ∨ initial ≤ v) (hle : initial ≤ p.marks.length) :
    (p.renumber created v).Sound source held ∧ Sweep top marks first initial lookahead (p.renumber created v).marks
      ∧ initial ≤ (p.renumber created v).marks.length := by
  obtain ⟨hsound, hmarks | ⟨m, hm, hmarks⟩⟩ := hp.renumber created v
  · rw [hmarks]
    exact ⟨hsound, h, hle⟩
  · have hlt : created < p.marks.length := (List.getElem?_eq_some_iff.1 hm).1
    have hlt' : created < (p.marks.modify v fun _ => m).length := by rwa [List.length_modify]
    rw [hmarks]
    refine ⟨hsound, (h.replace hv (h.ready created (.inr hc) m hm)).erase hlt' (.inl hc), ?_⟩
    rw [List.length_eraseIdx_of_lt hlt']
    omega

theorem Sound.removeFor {p : Parser} (hp : p.Sound source held) (h : Sweep top marks first initial lookahead p.marks)
    (hlt : v < p.marks.length) (hl : lookahead ≠ none → initial = first + 1) (hv : v = first ∨ initial ≤ v) :
    (p.removeFor lookahead v).Sound source held
      ∧ Sweep top marks first initial lookahead (p.removeFor lookahead v).marks := by
  unfold Parser.removeFor
  split
  next hsome =>
    have hne : lookahead ≠ none := Option.isSome_iff_ne_none.1 hsome
    rw [marks_remove]
    exact ⟨hp.remove v, h.erase hlt (hv.elim (fun hv => .inr ⟨hv, hl hne, hne⟩) .inl)⟩
  next => exact ⟨hp, h⟩

/-- The reductions among some actions are among them. -/
theorem reduce_mem_of_mem_reductionsIn {actions : List Grammar.Action} {r : Grammar.Reduction}
    (h : r ∈ reductionsIn actions) : .reduce r ∈ actions := by
  refine List.foldlRecOn (motive := fun found : List Grammar.Reduction => ∀ r ∈ found, .reduce r ∈ actions) actions _
    (fun _ hr => absurd hr List.not_mem_nil) (fun found hfound action haction => ?_) r h
  cases action with
  | reduce r =>
    simp only
    split
    · exact hfound
    · intro r' hr'
      rcases List.mem_append.1 hr' with hr' | hr'
      · exact hfound r' hr'
      · cases List.mem_singleton.1 hr'
        exact haction
  | _ => exact hfound

theorem Sound.reduceEach {p q : Parser} {last : Option Nat} (hp : p.Sound source held) (hlt : v < p.marks.length)
    {reductions : List Grammar.Reduction}
    (hv : ∀ m ∈ p.marks[v]?, m.ReadyAt top ∧ ∀ r ∈ reductions, Reduces m.point.state r)
    (h : p.reduceEach v reductions = (q, last)) :
    q.Sound source held ∧ (∃ more, q.marks = p.marks ++ more ∧ ∀ m ∈ more, m.ReadyAt top)
      ∧ ∀ l ∈ last, p.marks.length ≤ l := by
  suffices hsuffices : (p.reduceEach v reductions).1.Sound source held
      ∧ (∃ more, (p.reduceEach v reductions).1.marks = p.marks ++ more ∧ ∀ m ∈ more, m.ReadyAt top)
      ∧ ∀ l ∈ (p.reduceEach v reductions).2, p.marks.length ≤ l by
    rwa [h] at hsuffices
  refine List.foldlRecOn (motive := fun state : Parser × Option Nat => state.1.Sound source held
    ∧ (∃ more, state.1.marks = p.marks ++ more ∧ ∀ m ∈ more, m.ReadyAt top) ∧ ∀ l ∈ state.2, p.marks.length ≤ l)
    reductions _ ⟨hp, ⟨[], (List.append_nil _).symm, nofun⟩, nofun⟩
    fun ⟨q, last⟩ ⟨hq, ⟨more, hmore, hready⟩, _⟩ r hr => ?_
  have hplace : ∀ m ∈ q.marks[v]?, m.ReadyAt top ∧ Reduces m.point.state r := by
    intro m hm
    rw [hmore, List.getElem?_append_left hlt] at hm
    exact (hv m hm).imp_right fun h => h r hr
  obtain ⟨hsound, more', hmore', hready'⟩ := hq.reduce hplace
  refine ⟨hsound, ⟨more ++ more', by rw [hmore', hmore, List.append_assoc],
    fun m hm => (List.mem_append.1 hm).elim (hready m) (hready' m)⟩, fun l hl => ?_⟩
  simp only at hl
  split at hl
  · cases hl
    have hlen := congrArg List.length hmore
    rw [List.length_append, Parser.marks, List.length_map] at hlen
    simp only at hlen ⊢
    omega
  · cases hl

/-- A sweep of reductions keeps a parser sound. -/
theorem Sound.reduceAll (hf : first < initial) (hl : lookahead ≠ none → initial = first + 1) :
    ∀ (fuel round v : Nat) (able : Bool) {p : Parser}, p.Sound source held →
      Sweep top marks first initial lookahead p.marks →
      (v = first ∧ initial ≤ p.marks.length ∨ initial ≤ v) →
      (reduceAll first initial lookahead fuel round v able p).1.Sound source held
        ∧ Sweep top marks first initial lookahead (reduceAll first initial lookahead fuel round v able p).1.marks
  | 0, _, _, _, _, hp, h, _ => ⟨hp, h⟩
  | fuel + 1, round, v, able, p, hp, h, hv => by
    rw [Parser.reduceAll]
    split
    · exact ⟨hp, h⟩
    next reading hreading =>
      have hlt : v < p.marks.length := (List.getElem?_eq_some_iff.1 (getElem?_marks hreading)).1
      have hv' : v = first ∨ initial ≤ v := hv.imp_left (·.1)
      have hle : initial ≤ p.marks.length := by omega
      simp only
      split
      next q hmerged =>
        obtain ⟨j, hj, hq⟩ := List.exists_of_findSome?_eq_some hmerged
        have hbehind : initial < v := by
          have := List.mem_range.1 hj
          omega
        obtain ⟨hsound, hmarks⟩ := hp.merge? hq
        refine Sound.reduceAll hf hl fuel (round + 1) v able hsound ?_ (.inr (by omega))
        rw [hmarks]
        exact h.erase hlt (.inl (by omega))
      next =>
        have hreduces {actions : List Grammar.Action} (hactions : ∀ r, .reduce r ∈ actions → Reduces reading.state r) :
            ∀ m ∈ p.marks[v]?, m.ReadyAt top ∧ ∀ r ∈ reductionsIn actions, Reduces m.point.state r := by
          intro m hm
          refine ⟨h.ready v hv' m hm, fun r hr => ?_⟩
          rw [getElem?_marks hreading] at hm
          cases hm
          exact hactions r (reduce_mem_of_mem_reductionsIn hr)
        generalize hresult : Parser.reduceEach v (reductionsIn _) p = result
        obtain ⟨q, last⟩ := result
        obtain ⟨hq, ⟨more, hmore, hready⟩, hlast⟩ := hp.reduceEach hlt (hreduces fun r hr => by
          cases lookahead with
          | none => exact .inr hr
          | some t => exact .inl ⟨t, hr⟩) hresult
        simp only at hq hlast ⊢
        have hsweep : Sweep top marks first initial lookahead q.marks := by
          rw [hmore]
          exact h.append hle hready
        have hlong : p.marks.length ≤ q.marks.length := by
          rw [hmore, List.length_append]
          omega
        have hnext : initial ≤ (if v = first then p.readings.length else v + 1) := by
          rw [Parser.marks, List.length_map] at hle
          split <;> omega
        obtain ⟨hremoved, hsweep'⟩ := hq.removeFor hsweep (Nat.lt_of_lt_of_le hlt hlong) hl hv'
        split
        · exact Sound.reduceAll hf hl fuel _ _ _ hq hsweep (.inr hnext)
        next created _ =>
          obtain ⟨hrenumbered, hsweep'', hlong'⟩ := hsweep.renumber hq
            (Nat.le_trans hle (hlast created rfl)) hv' (Nat.le_trans hle hlong)
          split
          · exact Sound.reduceAll hf hl fuel _ _ _ hrenumbered hsweep'' (hv'.imp_left fun hv => ⟨hv, hlong'⟩)
          · exact Sound.reduceAll hf hl fuel _ _ _ hremoved hsweep' (.inr hnext)
        · exact Sound.reduceAll hf hl fuel _ _ _ hremoved hsweep' (.inr hnext)

end Sweep

end Parser
end Bookmarklet.Script
