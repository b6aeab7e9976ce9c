import Bookmarklet.Proofs.Script.Parser.Lexing
import Bookmarklet.Proofs.Script.Parser.Recovery
import Bookmarklet.Script.Parse

/-!
# A parse loses no text

Taking a token keeps a parser sound (`Parser.Sound.take`), and so does choosing between its readings
(`Parser.Sound.condense`). So the syntax tree of a source reads it from its start (`reads_of_parse`), and is that of
parts which the parse table accepts (`rooted_of_parse`).
-/

namespace Bookmarklet.Script

namespace Parser

section Take

variable {source : List Char} {held : List Stack} {top b : Cursor} {p : Parser} {v : Nat} {reading : Reading}
  {lookahead : Subtree}

/-- What a state does on a token. -/
theorem mem_movesOn {state : Nat} {action : Grammar.Action} (h : action ∈ movesOn state lookahead) :
    ∃ t, lookahead.symbol = .terminal t ∧ action ∈ Grammar.moves state t := by
  unfold movesOn at h
  split at h
  next t ht => exact ⟨t, ht, h⟩
  next => cases h

/-- A token that a state knows may be pushed by a shift. -/
theorem bridges_token {state target : Nat} {extra : Bool} {t : Terminal} (hc : lookahead.Covers top b)
    (htoken : lookahead.isToken) (hsymbol : lookahead.symbol = .terminal t)
    (hmove : if extra then target = state ∧ t.isExtra else .shift target ∈ Grammar.moves state t) :
    Bridges (some (lookahead.withExtra extra)) ⟨top, state⟩ ⟨b, target⟩ := by
  cases lookahead with
  | leaf l span extra' =>
    have hsymbol' : l.symbol = .terminal t := hsymbol
    have hextra : extra → l.IsExtra := fun he => by
      rw [if_pos he] at hmove
      exact ⟨t, hsymbol', hmove.2⟩
    refine ⟨Subtree.covers_withExtra.2 hc, .leaf (by rw [hsymbol']; nofun) hextra, ?_⟩
    show Subtree.Follows (.leaf l span extra) state target
    rw [Subtree.Follows]
    split at hmove
    next he =>
      rw [if_pos he]
      exact ⟨hmove.1, hextra he⟩
    next he =>
      rw [if_neg he]
      exact ⟨htoken, t, hsymbol', .inl hmove⟩
  | branch => cases htoken

/-- The actions on a token keep a parser sound. Where none of them deals with it, the reading is where it was, and so
are the readings that its last reduction led to. -/
theorem Sound.act {state : Nat} (hc : lookahead.Covers top b) (htoken : lookahead.isToken) {q : Parser}
    {done reduced' : Bool} {last' : Option Nat} :
    ∀ (actions : List Grammar.Action) {reduced : Bool} {last : Option Nat} {p : Parser},
      Parser.act v state lookahead actions reduced last p = (q, done, reduced', last') →
      (∀ action ∈ actions, action ∈ movesOn state lookahead) → p.Sound source held →
      p.marks[v]? = some ⟨⟨top, state⟩, true⟩ →
      (∀ l ∈ last, v < l ∧ ∀ m ∈ p.marks[l]?, m.ReadyAt top) →
      q.Sound source held ∧ (done = false → q.marks[v]? = some ⟨⟨top, state⟩, true⟩
        ∧ ∀ l ∈ last', v < l ∧ ∀ m ∈ q.marks[l]?, m.ReadyAt top)
  | [], _, _, _, h, _, hp, hv, hlast => by
    cases h
    exact ⟨hp, fun _ => ⟨hv, hlast⟩⟩
  | action :: rest, reduced, last, p, h, hmoves, hp, hv, hlast => by
    obtain ⟨t, hsymbol, hmove⟩ := mem_movesOn (hmoves action List.mem_cons_self)
    have hrest : ∀ action ∈ rest, action ∈ movesOn state lookahead :=
      fun action' h => hmoves action' (List.mem_cons_of_mem action h)
    have hmark : ∀ m ∈ p.marks[v]?, m = ⟨⟨top, state⟩, true⟩ := by
      rw [hv]
      rintro _ ⟨⟩
      rfl
    have hready : ∀ m ∈ p.marks[v]?, m.ReadyAt top := fun m hm => hmark m hm ▸ ⟨rfl, rfl⟩
    have hpush {extra : Bool} {target : Nat}
        (htarget : if extra then target = state ∧ t.isExtra else .shift target ∈ Grammar.moves state t) :
        (p.push v (some (lookahead.withExtra extra)) target).Sound source held :=
      (hp.push v (some _) (b := ⟨b, target⟩) fun m hm => by
        rw [hmark m hm]
        exact ⟨bridges_token hc htoken hsymbol htarget, fun _ => rfl⟩).1
    cases action with
    | shift target =>
      cases h
      exact ⟨hpush (by rwa [if_neg Bool.false_ne_true]), nofun⟩
    | shiftAgain target => exact Sound.act hc htoken rest h hrest hp hv hlast
    | shiftExtra =>
      cases h
      exact ⟨hpush (by rw [if_pos rfl]; exact ⟨rfl, Grammar.isExtra_of_shiftExtra hmove⟩), nofun⟩
    | accept =>
      cases h
      exact ⟨hp.accept hmark hc htoken hsymbol hmove, nofun⟩
    | recover =>
      cases h
      exact ⟨hp.recover hready hc htoken, nofun⟩
    | reduce r =>
      obtain ⟨hreduced, more, hmore, hnew⟩ := hp.reduce (v := v) (r := r) fun m hm => by
        rw [hmark m hm]
        exact ⟨⟨rfl, rfl⟩, .inl ⟨t, hmove⟩⟩
      have hlt : v < p.marks.length := (List.getElem?_eq_some_iff.1 hv).1
      have hlength : p.readings.length = p.marks.length := (List.length_map _).symm
      simp only [Parser.act] at h
      refine Sound.act hc htoken rest h hrest hreduced ?_ fun l hl => ?_
      · rw [hmore, List.getElem?_append_left hlt]
        exact hv
      · split at hl
        · cases hl
          refine ⟨by omega, fun m hm => ?_⟩
          rw [hmore, List.getElem?_append_right (by omega)] at hm
          exact hnew m (List.mem_of_getElem? hm)
        · obtain ⟨hvl, hm⟩ := hlast l hl
          refine ⟨hvl, fun m hm' => ?_⟩
          rw [hmore, List.getElem?_append] at hm'
          split at hm'
          · exact hm m hm'
          · exact hnew m (List.mem_of_getElem? hm')

theorem Sound.pause (hp : p.Sound source held) (hr : reading.stack ∈ held)
    (hc : lookahead.Covers reading.stack.place b) (htoken : lookahead.isToken) :
    (p.pause v reading lookahead).Sound source held := by
  obtain ⟨points, hp⟩ := hp
  refine ⟨points, fun r hr' => ?_, hp.held, hp.finished⟩
  rcases List.mem_or_eq_of_mem_set hr' with hr' | rfl
  · exact hp.readings r hr'
  · refine ⟨fun _ => hp.held _ hr, fun l hl => ?_⟩
    cases hl
    exact ⟨htoken, b, hc⟩

/-- A reading takes the token behind it, after the reductions that it calls for. -/
theorem Sound.take : ∀ (fuel : Nat) {held : List Stack} {lookahead : Subtree} {p : Parser}, lookahead.Covers top b →
    lookahead.isToken → p.Sound source held → (∀ m ∈ p.marks[v]?, m.ReadyAt top) →
    (Parser.take v fuel lookahead p).Sound source held
  | 0, _, _, p, _, _, hp, _ => hp.halt v
  | fuel + 1, held, lookahead, p, hc, htoken, hp, hv => by
    rw [Parser.take]
    split
    · exact hp
    next reading hreading =>
      have hready : reading.mark.ReadyAt top := hv _ (getElem?_marks hreading)
      have hplace : reading.stack.place = top := hready.place
      have hmark : reading.mark = ⟨⟨top, reading.state⟩, true⟩ :=
        congrArg₂ Mark.mk (congrArg (Point.mk · reading.state) hplace) hready.active
      have hact {q : Parser} {done reduced : Bool} {last : Option Nat} (h : Parser.act v reading.state lookahead
          (movesOn reading.state lookahead) false none p = (q, done, reduced, last)) :=
        Sound.act hc htoken _ h (fun _ h => h) (hp.hold (List.mem_of_getElem? hreading) hready.active)
          (by rw [getElem?_marks hreading, hmark]) nofun
      refine Sound.release (s := reading.stack) ?_
      split
      next q _ last heq => exact (hact heq).1
      next q _ last heq =>
        obtain ⟨hsound, hready⟩ := hact heq
        obtain ⟨hvq, hlast⟩ := hready rfl
        obtain ⟨hlt, hm⟩ := hlast last rfl
        obtain ⟨hrenumbered, hmarks⟩ := hsound.renumber last v
        refine Sound.take fuel hc htoken hrenumbered fun m hm' => ?_
        rcases hmarks with hmarks | ⟨m', hm'', hmarks⟩
        · rw [hmarks, hvq] at hm'
          cases hm'
          exact ⟨rfl, rfl⟩
        · rw [hmarks, List.getElem?_eraseIdx_of_lt hlt, List.getElem?_modify_eq, hvq] at hm'
          cases hm'
          exact hm _ hm''
      next q heq => exact (hact heq).1.halt v
      next q heq =>
        obtain ⟨hsound, hready⟩ := hact heq
        have hpause : (q.pause v reading lookahead).Sound source (reading.stack :: held) :=
          hsound.pause List.mem_cons_self (hplace ▸ hc) htoken
        split
        next name hname =>
          split
          · refine Sound.take fuel (covers_asName hname hc) (isToken_asName hname) hsound fun m hm => ?_
            rw [(hready rfl).1] at hm
            cases hm
            exact ⟨rfl, rfl⟩
          · exact hpause
        next => exact hpause

/-- Reading the next token of a reading and taking it. -/
theorem Sound.advance (hp : p.Sound source held) (hv : ∀ m ∈ p.marks[v]?, m.active) :
    (p.advance v).Sound source held := by
  unfold Parser.advance
  split
  · exact hp
  next reading hreading =>
    obtain ⟨b, hb⟩ := covers_lex reading.state (reading.stack.weight.cost == 0
      || reading.stack.hasAdvanced reading.nodesAtError p.height) reading.stack.place
    refine Sound.take _ hb (isToken_lex _ _ _) hp fun m hm => ?_
    rw [getElem?_marks hreading] at hm
    cases hm
    exact ⟨rfl, hv _ (getElem?_marks hreading)⟩

theorem Sound.round : ∀ (fuel v last : Nat) {p : Parser}, p.Sound source held →
    (Parser.round fuel v last p).1.Sound source held
  | 0, _, _, _, hp => hp
  | fuel + 1, v, last, p, hp => by
    rw [Parser.round]
    split
    · exact hp
    next reading hreading =>
      split
      next hactive =>
        have hadvance : (p.advance v).Sound source held := hp.advance fun m hm => by
          rw [getElem?_marks hreading] at hm
          cases hm
          exact hactive
        simp only
        split
        · exact Sound.round fuel _ _ hadvance
        · exact Sound.round fuel _ _ hadvance
      next => exact Sound.round fuel _ _ hp

end Take

/-! ## Choosing between readings -/

section Choose

variable {source : List Char} {held : List Stack} {p : Parser}

theorem Sound.swap (hp : p.Sound source held) (i j : Nat) : (p.swap i j).Sound source held := by
  unfold Parser.swap
  split
  next a c ha hc =>
    refine hp.of_readings rfl rfl fun r hr => ⟨r, ?_, fun _ _ h => h⟩
    rcases List.mem_or_eq_of_mem_set hr with hr | rfl
    · rcases List.mem_or_eq_of_mem_set hr with hr | rfl
      · exact hr
      · exact List.mem_of_getElem? hc
    · exact List.mem_of_getElem? ha
  next => exact hp

theorem Sound.contest (standing : Standing) : ∀ (fuel i j : Nat) {p : Parser}, p.Sound source held →
    (Parser.contest standing fuel i j p).1.Sound source held
  | 0, _, _, _, hp => hp
  | fuel + 1, i, j, p, hp => by
    rw [Parser.contest]
    split
    · exact hp
    · split
      · exact hp
      · split
        · exact hp.remove i
        · split
          next q hq => exact (hp.merge? hq).1
          next => exact Sound.contest standing fuel i (j + 1) hp
        · split
          next q hq => exact (hp.merge? hq).1
          next => exact Sound.contest standing fuel i (j + 1) hp
        · split
          next q hq => exact (hp.merge? hq).1
          next => exact Sound.contest standing fuel i (j + 1) (hp.swap i j)
        · exact Sound.contest standing fuel (i - 1) j (hp.remove j)

theorem Sound.sort : ∀ (fuel i : Nat) (least : Option Nat) {p : Parser}, p.Sound source held →
    (Parser.sort fuel i least p).1.Sound source held
  | 0, _, _, _, hp => hp
  | fuel + 1, i, least, p, hp => by
    rw [Parser.sort]
    split
    · exact hp
    next reading hreading =>
      split
      · exact Sound.sort fuel i least (hp.remove i)
      · have hset : (p.set i reading.settle).Sound source held := by
          refine hp.of_readings rfl rfl fun r hr => ?_
          rcases List.mem_or_eq_of_mem_set hr with hr | rfl
          · exact ⟨r, hr, fun _ _ h => h⟩
          · exact ⟨reading, List.mem_of_getElem? hreading, fun _ _ h => h.settle⟩
        exact Sound.sort fuel _ _ (Sound.contest _ 64 i 0 hset)

theorem Sound.resume : ∀ (fuel i : Nat) (live : Bool) (least : Option Nat) {p : Parser}, p.Sound source held →
    (Parser.resume fuel i live least p).1.Sound source held
  | 0, _, _, _, _, hp => hp
  | fuel + 1, i, live, least, p, hp => by
    rw [Parser.resume]
    split
    · exact hp
    next reading hreading =>
      split
      next lookahead hpaused =>
        split
        · have hpausing : reading.isHalted = false := by rw [Reading.isHalted, hpaused]
          have hset : (p.set i { reading with status := .active }).Sound source held := by
            refine hp.of_readings rfl rfl fun r hr => ?_
            rcases List.mem_or_eq_of_mem_set hr with hr | rfl
            · exact ⟨r, hr, fun _ _ h => h⟩
            · exact ⟨reading, List.mem_of_getElem? hreading, fun _ _ h => .of_isActive rfl (h.stack hpausing)⟩
          have hlookahead : lookahead.isToken ∧ ∃ b, lookahead.Covers reading.stack.place b := by
            obtain ⟨points, hp⟩ := hp
            exact (hp.readings reading (List.mem_of_getElem? hreading)).lookahead lookahead hpaused
          have hmark : (p.set i { reading with status := .active }).marks[i]? = some ⟨reading.stack.point, true⟩ := by
            obtain ⟨hlt, -⟩ := List.getElem?_eq_some_iff.1 hreading
            rw [marks, set, List.getElem?_map, List.getElem?_set_self hlt]
            rfl
          obtain ⟨htoken, b, hb⟩ := hlookahead
          have hready : ∀ m ∈ (p.set i { reading with status := .active }).marks[i]?,
              m.ReadyAt reading.stack.place := by
            intro m hm
            rw [hmark] at hm
            cases hm
            exact ⟨rfl, rfl⟩
          exact Sound.resume fuel (i + 1) true _ (hset.handleError hready
            (List.getElem?_eq_some_iff.1 hmark).1 hb htoken)
        · exact Sound.resume fuel i live least (hp.remove i)
      next => exact Sound.resume fuel (i + 1) true least hp

theorem Sound.condense (hp : p.Sound source held) : p.condense.1.Sound source held := by
  have hsort := hp.sort 256 0 none
  refine Sound.resume _ 0 false _ (hsort.of_readings rfl rfl fun r hr => ?_)
  exact ⟨r, List.mem_of_mem_take hr, fun _ _ h => h⟩

end Choose

/-! ## The whole parse -/

/-- A finished parse covers the source from its start, and has a root. -/
theorem covers_of_run {source : List Char} {s : Subtree} : ∀ (fuel last : Nat) {p : Parser}, p.Sound source [] →
    run fuel last p = some s → (∃ b, s.Covers (.ofText source) b) ∧ Rooted s
  | 0, _, p, ⟨_, hp⟩, hs => hp.finished s hs
  | fuel + 1, last, p, hp, hs => by
    have hnext := (hp.round (fuel + 64) 0 last).condense
    have hfinished : ∀ s ∈ (Parser.round (fuel + 64) 0 last p).1.condense.1.finished,
        (∃ b, s.Covers (.ofText source) b) ∧ Rooted s := hnext.elim fun _ h => h.finished
    rw [run] at hs
    simp only at hs
    split at hs
    next finished hf _ =>
      cases hs
      exact hfinished s hf
    next => cases hs
    next finished _ hf _ =>
      split at hs
      · cases hs
        exact hfinished s hf
      · exact covers_of_run fuel _ hnext hs
    next => exact covers_of_run fuel _ hnext hs

end Parser

/-- The syntax tree of a source is that of parts which the parse table accepts, or shows an error. -/
theorem rooted_of_parse {source : List Char} {t : Tree} (h : parse source = some t) :
    ∃ s, Parser.Rooted s ∧ s.tree = t := by
  obtain ⟨s, hs, rfl⟩ := Option.map_eq_some_iff.1 h
  exact ⟨s, (Parser.covers_of_run _ _ (Parser.sound_start source) hs).2, rfl⟩

/-- The syntax tree of a source reads it, from its start on. -/
theorem reads_of_parse {source : List Char} {t : Tree} (h : parse source = some t) :
    ∃ a b text c, (Cursor.ofText source).Slack a ∧ t.Reads a b ∧ b.Leads text c := by
  obtain ⟨s, hs, rfl⟩ := Option.map_eq_some_iff.1 h
  obtain ⟨c, hc⟩ := (Parser.covers_of_run _ _ (Parser.sound_start source) hs).1
  obtain ⟨a, b, text, ha, ht, hb⟩ := hc.reads_tree
  exact ⟨a, b, text, c, ha, ht, hb⟩

end Bookmarklet.Script
