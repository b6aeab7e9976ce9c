import Mathlib.Logic.Function.Basic
import Bookmarklet.Proofs.Script.Parser.Follow
import Bookmarklet.Script.Parser.Stack

/-!
# Stacks that cover their text

A stack is sound if each part on it covers the text from the place of the stack below to its own place, and leads from
the state of the stack below to its own state as the parse table says (`Stack.Sound`). Stacks that share a number share
their place and their state, so merging keeps stacks sound (`Stack.Sound.merge`), and the parts on any way down cover
what lies between its ends and lead from one to the other (`Stack.Sound.pop`, `Stack.Sound.popAll`).
-/

namespace Bookmarklet.Script

open Subtree (CoversAll)
open Grammar (errorState startState)

/-! ## Parts that a stack may hold -/

namespace Subtree

/-- A part with nothing that a stack may not hold: text that is no token occurs in skipped parts only, and only
errors and tokens that no rule mentions are extra. -/
inductive Whole : Subtree → Prop
  | leaf {l : Leaf} {span : Span} {extra : Bool} (h : l.symbol ≠ .error) (hextra : extra → l.IsExtra) :
      Whole (.leaf l span extra)
  | branch {symbol : Symbol} {shape : Grammar.Shape} {children : List Subtree} {span : Span} {extra : Bool}
      {weight : Weight} (h : symbol = .error → ∀ c ∈ children, Whole c)
      (hextra : extra → symbol = .error ∧ 0 < weight.cost) :
      Whole (.branch symbol shape children span extra weight)

section Whole

variable {s : Subtree} {symbol : Symbol} {shape : Grammar.Shape} {here : Cursor} {children : List Subtree}

theorem Whole.prefer (h : s.Whole) (preference : Int) : (s.prefer preference).Whole := by
  cases h with
  | leaf h hextra => exact .leaf h hextra
  | branch h hextra => exact .branch h hextra

theorem whole_wrap (h : symbol = .error → ∀ c ∈ children, c.Whole) : (wrap symbol shape here children).Whole :=
  .branch h nofun

theorem whole_wrap_of_ne (h : symbol ≠ .error) : (wrap symbol shape here children).Whole :=
  whole_wrap fun he => absurd he h

theorem cost_wrap_error (shape : Grammar.Shape) (here : Cursor) (children : List Subtree) :
    0 < (wrap .error shape here children).cost := by
  simp only [cost, wrap, weight, beq_self_eq_true, Bool.true_or, if_true, Cost.recovery]
  omega

/-- What an error skipped is an extra part. -/
theorem whole_error (h : ∀ c ∈ children, c.Whole) : ((wrap .error shape here children).withExtra true).Whole :=
  .branch (fun _ => h) fun _ => ⟨rfl, cost_wrap_error shape here children⟩

/-- An extra part may stand in any state. -/
theorem Whole.follows_self (h : s.Whole) (he : s.extra) (a : Nat) : s.Follows a a := by
  cases h with
  | @leaf l span extra h hextra =>
    rw [Follows, if_pos (show extra = true from he)]
    exact ⟨rfl, hextra he⟩
  | branch h hextra =>
    obtain ⟨rfl, hcost⟩ := hextra he
    exact ⟨he, rfl, hcost⟩

theorem followsAll_self (a : Nat) : ∀ {cs : List Subtree}, (∀ c ∈ cs, c.Whole) → (∀ c ∈ cs, c.extra) →
    FollowsAll cs a a
  | [], _, _ => rfl
  | c :: _, h, he =>
    ⟨a, (h c List.mem_cons_self).follows_self (he c List.mem_cons_self) a,
      followsAll_self a (fun d hd => h d (List.mem_cons_of_mem c hd)) fun d hd => he d (List.mem_cons_of_mem c hd)⟩

end Whole
end Subtree

/-- Parts that may be on a stack stand between two places. -/
structure Joins (parts : List Subtree) (a b : Cursor) : Prop where
  covers : CoversAll parts a b
  whole : ∀ c ∈ parts, c.Whole

namespace Joins

variable {a b m : Cursor} {parts more : List Subtree}

theorem nil (a : Cursor) : Joins [] a a := ⟨rfl, nofun⟩

theorem cons {part : Subtree} (hc : part.Covers a m) (hw : part.Whole) (h : Joins parts m b) :
    Joins (part :: parts) a b where
  covers := ⟨m, hc, h.covers⟩
  whole := fun c hm => by
    rcases List.mem_cons.1 hm with rfl | hm
    · exact hw
    · exact h.whole c hm

theorem append (h : Joins parts a m) (h' : Joins more m b) : Joins (parts ++ more) a b where
  covers := Subtree.coversAll_append.2 ⟨m, h.covers, h'.covers⟩
  whole := fun c hm => (List.mem_append.1 hm).elim (h.whole c) (h'.whole c)

/-- Parts without the extra parts at their end, and these. -/
theorem splitExtras (h : Joins parts a b) :
    ∃ m, Joins (Subtree.splitExtras parts).1 a m ∧ Joins (Subtree.splitExtras parts).2 m b := by
  obtain ⟨m, hc, hc'⟩ := Subtree.covers_splitExtras h.covers
  have hmem (c : Subtree) (hm : c ∈ (Subtree.splitExtras parts).1 ++ (Subtree.splitExtras parts).2) : c.Whole := by
    rw [Subtree.splitExtras_append] at hm
    exact h.whole c hm
  exact ⟨m, ⟨hc, fun c hm => hmem c (List.mem_append_left _ hm)⟩,
    ⟨hc', fun c hm => hmem c (List.mem_append_right _ hm)⟩⟩

end Joins

/-- A place of the source and a state of the parse. -/
structure Point where
  place : Cursor
  state : Nat

/-- Parts on a way up a stack stand between two points, and so many of them are not extra. -/
structure Climbs (parts : List Subtree) (depth : Nat) (a b : Point) : Prop where
  joins : Joins parts a.place b.place
  reaches : Reaches parts depth a.state b.state

/-- What a link holds stands between two points; the mark of an error has no text, and leads to error recovery. -/
def Bridges : Option Subtree → Point → Point → Prop
  | none, a, b => b = ⟨a.place, errorState⟩
  | some part, a, b => part.Covers a.place b.place ∧ part.Whole ∧ part.Follows a.state b.state

theorem Climbs.nil (a : Point) : Climbs [] 0 a a := ⟨.nil a.place, .nil a.state⟩

/-- The depth of a way one link further. -/
def deepen (depth : Nat) : Option Subtree → Nat
  | none => depth + 1
  | some part => if part.extra then depth else depth + 1

/-- A way up that starts with one more link. -/
theorem Climbs.extend {part : Option Subtree} {parts : List Subtree} {depth : Nat} {a b m : Point}
    (hb : Bridges part a m) (h : Climbs parts depth m b) : Climbs (part.toList ++ parts) (deepen depth part) a b := by
  cases part with
  | none =>
    cases hb
    exact ⟨h.joins, h.reaches.of_errorState (depth + 1) a.state⟩
  | some part => exact ⟨h.joins.cons hb.1 hb.2.1, h.reaches.cons hb.2.2⟩

namespace Stack

/-- Where a stack has come to. -/
def point (s : Stack) : Point := ⟨s.place, s.state⟩

/-! ## Soundness -/

/-- Every link of a stack holds what stands between the point of the stack below and its own point, and the empty
stack is at the start of the source. The numbers in use are less than `fresh`, and a number tells the point. -/
inductive Sound (source : List Char) (points : Nat → Point) (fresh : Nat) : Stack → Prop
  | mk {id state : Nat} {place : Cursor} {weight : Weight} {links : List (Option Subtree × Stack)}
      (lt : id < fresh) (known : points id = ⟨place, state⟩) (isIn : place.IsIn source)
      (bottom : links = [] → (⟨place, state⟩ : Point) = ⟨.ofText source, startState⟩)
      (bridges : ∀ l ∈ links, Bridges l.1 l.2.point ⟨place, state⟩)
      (under : ∀ l ∈ links, Sound source points fresh l.2) :
      Sound source points fresh (.node id state place weight links)

section Sound

variable {source : List Char} {points : Nat → Point} {fresh : Nat} {s t : Stack}

theorem Sound.points_id (h : s.Sound source points fresh) : points s.id = s.point := by
  cases h with
  | mk lt known isIn bottom bridges under => exact known

theorem Sound.isIn (h : s.Sound source points fresh) : s.place.IsIn source := by
  cases h with
  | mk lt known isIn bottom bridges under => exact isIn

theorem Sound.eq_start (h : s.Sound source points fresh) (hl : s.links = []) :
    s.point = ⟨.ofText source, startState⟩ := by
  cases h with
  | mk lt known isIn bottom bridges under => exact bottom hl

theorem Sound.bridges (h : s.Sound source points fresh) {l : Option Subtree × Stack} (hl : l ∈ s.links) :
    Bridges l.1 l.2.point s.point := by
  cases h with
  | mk lt known isIn bottom bridges under => exact bridges l hl

theorem Sound.under (h : s.Sound source points fresh) {l : Option Subtree × Stack} (hl : l ∈ s.links) :
    l.2.Sound source points fresh := by
  cases h with
  | mk lt known isIn bottom bridges under => exact under l hl

/-- Stacks of one number are at one point. -/
theorem Sound.point_eq_of_id (hs : s.Sound source points fresh) (ht : t.Sound source points fresh)
    (h : s.id = t.id) : s.point = t.point := by
  rw [← hs.points_id, ← ht.points_id, h]

/-- Stacks that may be merged are at one point. -/
theorem Sound.point_eq_of_mergeable (hs : s.Sound source points fresh) (ht : t.Sound source points fresh)
    (h : s.mergeable t) : s.point = t.point := by
  simp only [mergeable, Bool.and_eq_true, beq_iff_eq] at h
  rw [point, point, hs.isIn.eq_of_byte ht.isIn h.1.2, h.1.1]

/-- More numbers may come into use. -/
theorem Sound.mono {points' : Nat → Point} {fresh' : Nat} (h : s.Sound source points fresh) (hle : fresh ≤ fresh')
    (heq : ∀ i < fresh, points' i = points i) : s.Sound source points' fresh' := by
  induction h with
  | mk lt known isIn bottom bridges under ih =>
    exact .mk (Nat.lt_of_lt_of_le lt hle) ((heq _ lt).trans known) isIn bottom bridges ih

theorem bottom_sound (source : List Char) :
    (bottom (.ofText source)).Sound source (fun _ => ⟨.ofText source, startState⟩) 1 :=
  .mk Nat.one_pos rfl (Cursor.isIn_ofText source) (fun _ => rfl) nofun nofun

/-- The place behind a bridge is a place of the source. -/
theorem isIn_of_bridges {part : Option Subtree} {a b : Point} (h : Bridges part a b) (ha : a.place.IsIn source) :
    b.place.IsIn source := by
  cases part with
  | none =>
    cases h
    exact ha
  | some part =>
    obtain ⟨text, htext⟩ := h.1.leads
    exact ha.leads htext

theorem point_push {part : Option Subtree} {b : Point} (h : Bridges part s.point b) (id : Nat) :
    (s.push id part b.state).point = b := by
  cases part with
  | none =>
    cases h
    rfl
  | some part => exact congrArg (Point.mk · b.state) h.1.stop

/-- A part pushed under a number that is not in use. -/
theorem Sound.push {part : Option Subtree} {b : Point} (h : s.Sound source points fresh)
    (hb : Bridges part s.point b) :
    (s.push fresh part b.state).Sound source (Function.update points fresh b) (fresh + 1) := by
  have hpoint := point_push hb fresh
  have hbelow : s.Sound source (Function.update points fresh b) (fresh + 1) :=
    h.mono (Nat.le_succ fresh) fun i hi => Function.update_of_ne (Nat.ne_of_lt hi) b points
  have hnode {state : Nat} {place : Cursor} {weight : Weight} (hp : (⟨place, state⟩ : Point) = b) :
      (node fresh state place weight [(part, s)]).Sound source (Function.update points fresh b) (fresh + 1) := by
    subst hp
    refine .mk (Nat.lt_succ_self fresh) (Function.update_self fresh _ points) (isIn_of_bridges hb h.isIn) nofun ?_ ?_
    · intro l hl
      cases List.mem_singleton.1 hl
      exact hb
    · intro l hl
      cases List.mem_singleton.1 hl
      exact hbelow
  cases part with
  | none => exact hnode hpoint
  | some part => exact hnode hpoint

/-! ## Merging -/

theorem mem_replaceLink {old : Option Subtree × Stack → Bool} {new l : Option Subtree × Stack}
    {links : List (Option Subtree × Stack)} (h : l ∈ replaceLink old new links) : l = new ∨ l ∈ links := by
  induction links with
  | nil => cases h
  | cons k ks ih =>
    rw [replaceLink] at h
    split at h
    · rcases List.mem_cons.1 h with rfl | h
      · exact .inl rfl
      · exact .inr (List.mem_cons_of_mem k h)
    · rcases List.mem_cons.1 h with rfl | h
      · exact .inr List.mem_cons_self
      · exact (ih h).imp_right (List.mem_cons_of_mem k)

theorem replaceLink_eq_nil {old : Option Subtree × Stack → Bool} {new : Option Subtree × Stack}
    {links : List (Option Subtree × Stack)} (h : replaceLink old new links = []) : links = [] := by
  cases links with
  | nil => rfl
  | cons l ls =>
    rw [replaceLink] at h
    split at h <;> cases h

/-- A stack with other links that fit. -/
theorem Sound.relink {id state : Nat} {place : Cursor} {weight weight' : Weight}
    {links links' : List (Option Subtree × Stack)} (h : (node id state place weight links).Sound source points fresh)
    (hnil : links' = [] → links = [])
    (hnew : ∀ l ∈ links', l ∈ links ∨ (Bridges l.1 l.2.point ⟨place, state⟩ ∧ l.2.Sound source points fresh)) :
    (node id state place weight' links').Sound source points fresh := by
  cases h with
  | mk lt known isIn bottom bridges under =>
    refine .mk lt known isIn (fun hl => bottom (hnil hl)) (fun l hl => ?_) (fun l hl => ?_)
    · exact (hnew l hl).elim (bridges l) (·.1)
    · exact (hnew l hl).elim (under l) (·.2)

/-- A way down may be added if it leads to the point of the stack. -/
theorem Sound.addLink : ∀ (fuel : Nat) {s : Stack} (l : Option Subtree × Stack), s.Sound source points fresh →
    l.2.Sound source points fresh → Bridges l.1 l.2.point s.point →
    (addLink fuel s l).Sound source points fresh ∧ (addLink fuel s l).point = s.point
  | 0, _, _, hs, _, _ => ⟨hs, rfl⟩
  | fuel + 1, node id state place weight links, (part, target), hs, ht, hb => by
    have hfold : ∀ (ls : List (Option Subtree × Stack)) {s : Stack}, s.Sound source points fresh →
        (∀ l ∈ ls, l.2.Sound source points fresh ∧ Bridges l.1 l.2.point s.point) →
        (ls.foldl (Stack.addLink fuel) s).Sound source points fresh
          ∧ (ls.foldl (Stack.addLink fuel) s).point = s.point := by
      intro ls
      induction ls with
      | nil => exact fun hs _ => ⟨hs, rfl⟩
      | cons l ls ih =>
        intro s hs hls
        obtain ⟨hl, hlb⟩ := hls l List.mem_cons_self
        obtain ⟨hsound, hpoint⟩ := Sound.addLink fuel l hs hl hlb
        have hrest := ih hsound fun k hk => by
          rw [hpoint]
          exact hls k (List.mem_cons_of_mem l hk)
        exact ⟨hrest.1, hrest.2.trans hpoint⟩
    simp only [Stack.addLink]
    split
    · exact ⟨hs, rfl⟩
    split
    next old stack hfind =>
      have hmem := List.mem_of_find?_eq_some hfind
      have hstack : stack.Sound source points fresh := hs.under hmem
      split
      next hid =>
        have hpoint := hstack.point_eq_of_id ht (by simpa using hid)
        split
        · refine ⟨hs.relink replaceLink_eq_nil fun l hl => ?_, rfl⟩
          rcases mem_replaceLink hl with rfl | hl
          · exact .inr ⟨hpoint ▸ hb, hstack⟩
          · exact .inl hl
        · exact ⟨hs, rfl⟩
      next hid =>
        -- The link found was not to the same stack, so its stack may be merged with the new one.
        have hnear : stack.mergeable target := by
          have htest := List.find?_some hfind
          simp only [Bool.or_eq_true, Bool.and_eq_true] at htest
          rcases htest with ⟨-, hsame⟩ | ⟨-, hnear⟩
          · exact absurd hsame hid
          · exact hnear
        have hpoint := hstack.point_eq_of_mergeable ht hnear
        obtain ⟨hsound, hmerged⟩ := hfold target.links hstack fun l hl => ⟨ht.under hl, hpoint ▸ ht.bridges hl⟩
        refine ⟨hs.relink replaceLink_eq_nil fun l hl => ?_, rfl⟩
        rcases mem_replaceLink hl with rfl | hl
        · refine .inr ⟨?_, hsound⟩
          simp only [hmerged]
          exact hs.bridges hmem
        · exact .inl hl
    next =>
      split
      · exact ⟨hs, rfl⟩
      · refine ⟨hs.relink (fun h => ?_) fun l hl => ?_, rfl⟩
        · exact (List.append_eq_nil_iff.1 h).1
        · rcases List.mem_append.1 hl with hl | hl
          · exact .inl hl
          · cases List.mem_singleton.1 hl
            exact .inr ⟨hb, ht⟩

/-- Stacks at one point may be merged. -/
theorem Sound.merge (fuel : Nat) (hs : s.Sound source points fresh) (ht : t.Sound source points fresh)
    (h : s.point = t.point) :
    (s.merge fuel t).Sound source points fresh ∧ (s.merge fuel t).point = s.point := by
  have hfold := List.foldlRecOn (motive := fun u => Stack.Sound source points fresh u ∧ u.point = s.point)
    t.links (Stack.addLink fuel) ⟨hs, rfl⟩ fun u hu l hl => by
      have hb : Bridges l.1 l.2.point u.point := by
        rw [hu.2, h]
        exact ht.bridges hl
      obtain ⟨hsound, hpoint⟩ := hu.1.addLink fuel l (ht.under hl) hb
      exact ⟨hsound, hpoint.trans hu.2⟩
  exact hfold

end Sound

/-! ## Taking parts -/

/-- What holds of the parts on a way down, and of its depth, still holds one link further. -/
def Extends (holds : Point → List Subtree → Nat → Prop) : Prop :=
  ∀ ⦃part : Option Subtree⦄ ⦃a b : Point⦄ ⦃parts : List Subtree⦄ ⦃depth : Nat⦄, Bridges part a b →
    holds b parts depth → holds a (part.toList ++ parts) (deepen depth part)

theorem extends_climbs (top : Point) : Extends fun a parts depth => Climbs parts depth a top :=
  fun _ _ _ _ _ hb h => h.extend hb

/-- The parts on a way that starts above other parts. -/
theorem extends_climbs_append (top : Point) (tail : List Subtree) :
    Extends fun a parts _ => ∃ front depth, parts = front ++ tail ∧ Climbs front depth a top := by
  rintro part a b _ _ hb ⟨front, depth, rfl, h⟩
  exact ⟨part.toList ++ front, deepen depth part, (List.append_assoc _ _ _).symm, h.extend hb⟩

section Paths

variable {source : List Char} {points : Nat → Point} {fresh : Nat} {holds : Point → List Subtree → Nat → Prop}

/-- A way down has come to a sound stack, over parts of which something holds. -/
structure Path.Sound (source : List Char) (points : Nat → Point) (fresh : Nat)
    (holds : Point → List Subtree → Nat → Prop) (p : Path) : Prop where
  stack : p.stack.Sound source points fresh
  parts : holds p.stack.point p.parts p.depth

theorem Path.Sound.follow (hx : Extends holds) {p : Path} (h : p.Sound source points fresh holds)
    {l : Option Subtree × Stack} (hl : l ∈ p.stack.links) : (p.follow l).Sound source points fresh holds := by
  have hparts := hx (h.stack.bridges hl) h.parts
  obtain ⟨part, below⟩ := l
  cases part with
  | none => exact ⟨h.stack.under hl, hparts⟩
  | some part => exact ⟨h.stack.under hl, hparts⟩

/-- The ways that have ended did so at sound stacks, over parts of which something holds. -/
def Ends.Sound (source : List Char) (points : Nat → Point) (fresh : Nat) (last : Point → List Subtree → Prop)
    (ends : Ends) : Prop :=
  ∀ e ∈ ends, e.1.Sound source points fresh ∧ e.2 ≠ [] ∧ ∀ parts ∈ e.2, last e.1.point parts

variable {last : Point → List Subtree → Prop}

theorem Ends.Sound.noteEnd {p : Path} (hp : p.stack.Sound source points fresh) (hlast : last p.stack.point p.parts) :
    ∀ {ends : Ends}, Ends.Sound source points fresh last ends → Ends.Sound source points fresh last (noteEnd p ends)
  | [], _ => by
    intro e he
    cases List.mem_singleton.1 he
    refine ⟨hp, List.cons_ne_nil _ _, fun parts hparts => ?_⟩
    cases List.mem_singleton.1 hparts
    exact hlast
  | (s, paths) :: rest, h => by
    obtain ⟨hs, hne, hpaths⟩ := h _ List.mem_cons_self
    rw [Stack.noteEnd]
    split
    next hid =>
      intro e he
      rcases List.mem_cons.1 he with rfl | he
      · refine ⟨hs, by simp, fun parts hparts => ?_⟩
        rcases List.mem_append.1 hparts with hparts | hparts
        · exact hpaths parts hparts
        · cases List.mem_singleton.1 hparts
          have hpoint := hs.point_eq_of_id hp (by simpa using hid)
          exact hpoint.symm ▸ hlast
      · exact h e (List.mem_cons_of_mem _ he)
    next =>
      intro e he
      rcases List.mem_cons.1 he with rfl | he
      · exact ⟨hs, hne, hpaths⟩
      · exact Ends.Sound.noteEnd hp hlast (fun e he => h e (List.mem_cons_of_mem _ he)) e he

/-- The ways of a front are sound, and so are its ends. -/
structure Front.Sound (source : List Char) (points : Nat → Point) (fresh : Nat)
    (holds : Point → List Subtree → Nat → Prop) (last : Point → List Subtree → Prop) (front : Front) : Prop where
  kept : ∀ p ∈ front.kept, p.Sound source points fresh holds
  added : ∀ p ∈ front.added, p.Sound source points fresh holds
  ends : front.ends.Sound source points fresh last

variable (hx : Extends holds)

include hx

/-- A sound way moves down soundly, if something holds of the parts where it ends. -/
theorem Front.Sound.moveDown {decide : Path → Step} {front : Front}
    (hf : front.Sound source points fresh holds last) {p : Path} (hp : p.Sound source points fresh holds)
    (hd : (decide p).ends → last p.stack.point p.parts) :
    (moveDown decide front p).Sound source points fresh holds last := by
  have hends : Ends.Sound source points fresh last
      (if (decide p).ends then noteEnd p front.ends else front.ends) := by
    split
    next hend => exact Ends.Sound.noteEnd hp.stack (hd hend) hf.ends
    next => exact hf.ends
  unfold Stack.moveDown
  simp only
  split
  · exact ⟨hf.kept, hf.added, hends⟩
  · exact ⟨hf.kept, hf.added, hends⟩
  next first others _ hlinks =>
    refine ⟨fun q hq => ?_, fun q hq => ?_, hends⟩
    · rcases List.mem_append.1 hq with hq | hq
      · exact hf.kept q hq
      · cases List.mem_singleton.1 hq
        exact hp.follow hx (hlinks ▸ List.mem_cons_self)
    · rcases List.mem_append.1 hq with hq | hq
      · exact hf.added q hq
      · obtain ⟨l, hl, rfl⟩ := List.mem_map.1 hq
        exact hp.follow hx (hlinks ▸ List.mem_cons_of_mem first (List.mem_of_mem_take hl))

theorem descendOnce_sound {decide : Path → Step} {paths : List Path} {ends : Ends}
    (hd : ∀ p : Path, p.Sound source points fresh holds → (decide p).ends → last p.stack.point p.parts)
    (hp : ∀ p ∈ paths, p.Sound source points fresh holds) (he : ends.Sound source points fresh last) :
    (∀ p ∈ (descendOnce decide paths ends).1, p.Sound source points fresh holds)
      ∧ Ends.Sound source points fresh last (descendOnce decide paths ends).2 := by
  have hfront := List.foldlRecOn (motive := Front.Sound source points fresh holds last) paths (moveDown decide)
    (b := ⟨[], [], ends, paths.length⟩) ⟨nofun, nofun, he⟩
    fun front hf p hmem => hf.moveDown hx (hp p hmem) (hd p (hp p hmem))
  exact ⟨fun p hp => (List.mem_append.1 hp).elim (hfront.kept p) (hfront.added p), hfront.ends⟩

theorem descend_sound {decide : Path → Step}
    (hd : ∀ p : Path, p.Sound source points fresh holds → (decide p).ends → last p.stack.point p.parts) :
    ∀ (fuel : Nat) {paths : List Path} {ends : Ends}, (∀ p ∈ paths, p.Sound source points fresh holds) →
      ends.Sound source points fresh last → Ends.Sound source points fresh last (descend decide fuel paths ends)
  | 0, _, _, _, he => he
  | _ + 1, [], _, _, he => he
  | fuel + 1, _ :: _, _, hp, he => by
    obtain ⟨hpaths, hends⟩ := descendOnce_sound hx hd hp he
    exact descend_sound hd fuel hpaths hends

end Paths

section Take

variable {source : List Char} {points : Nat → Point} {fresh : Nat} {s : Stack} (h : s.Sound source points fresh)

include h

/-- The parts taken from a stack stand between the stack below them and its point, and as many as were asked for are not
extra. -/
theorem Sound.pop (fuel count : Nat) :
    (s.pop fuel count).Sound source points fresh fun a parts => Climbs parts count a s.point := by
  refine descend_sound (extends_climbs s.point) (fun p hp hend => ?_) fuel (fun p hp => ?_) nofun
  · rw [← eq_of_beq hend]
    exact hp.parts
  · cases List.mem_singleton.1 hp
    exact ⟨h, .nil s.point⟩

/-- All parts of a stack make up the source up to its place, and lead from the first state to its own. Others may have
been passed above it. -/
theorem Sound.popAll (fuel : Nat) (tail : List Subtree) (depth : Nat) :
    (descend (fun p => ⟨p.stack.links.isEmpty, false⟩) fuel [⟨s, tail, depth⟩] []).Sound source points fresh
      fun _ parts => ∃ front width, parts = front ++ tail ∧ Climbs front width ⟨.ofText source, startState⟩ s.point := by
  refine descend_sound (extends_climbs_append s.point tail) (fun p hp hend => ?_) fuel (fun p hp => ?_) nofun
  · have hstart := hp.stack.eq_start (by simpa using hend)
    exact hstart ▸ hp.parts
  · cases List.mem_singleton.1 hp
    exact ⟨h, [], 0, rfl, .nil s.point⟩

/-- What an error on top skipped stands between the stack below it and the place of the stack. -/
theorem Sound.popError? {below : Stack} {parts : List Subtree} (hp : s.popError? = some (below, parts)) :
    below.Sound source points fresh ∧ Joins parts below.place s.place ∧ below.state = s.state := by
  obtain ⟨⟨part, stack⟩, hl, heq⟩ := List.exists_of_findSome?_eq_some hp
  have hbridges := h.bridges hl
  have hbelow := h.under hl
  cases part with
  | none => cases heq
  | some part =>
    simp only at heq
    split at heq
    next hsymbol =>
      cases heq
      obtain ⟨hcovers, hwhole, hfollows⟩ := hbridges
      cases hwhole with
      | leaf hne _ => exact absurd (eq_of_beq hsymbol) hne
      | branch hchildren hextra =>
        cases eq_of_beq hsymbol
        exact ⟨hbelow, ⟨hcovers.1, hchildren rfl⟩, hfollows.2.1.symm⟩
    next => cases heq

end Take

/-- All ways down from a stack with a part on top pass that part first. -/
theorem exists_descend_push (s : Stack) (id state : Nat) (part : Subtree) (fuel : Nat) (tail : List Subtree)
    (depth : Nat) : ∃ fuel' depth', descend (fun p => ⟨p.stack.links.isEmpty, false⟩) fuel
        [⟨s.push id (some part) state, tail, depth⟩] []
      = descend (fun p => ⟨p.stack.links.isEmpty, false⟩) fuel' [⟨s, part :: tail, depth'⟩] [] := by
  cases fuel with
  | zero => exact ⟨0, depth, rfl⟩
  | succ fuel => exact ⟨fuel, if part.extra then depth else depth + 1, rfl⟩

end Stack
end Bookmarklet.Script
