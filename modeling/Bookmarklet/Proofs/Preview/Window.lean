import Mathlib.Data.List.Induction
import Bookmarklet.Proofs.Preview.Isolation

/-!
# The window of the log

The log shows a window of all that was written since it was cleared: the last entries, as many as it holds. What leaves
the window leaves it at the old end, one entry for each new one (`Log.Window.append`).

A chronicle tells what was written from the acts alone, whoever performs them, and forgets nothing (`Chronicle.note`).
Each act leaves the log of a session what the chronicle says (`Session.log_perform`), so that it goes on being a window
of the chronicle (`Session.Follows.perform`), however acts of any kind are mixed (`Session.window_run`).
-/

namespace Bookmarklet.Preview

/-! ## Entries that are appended -/

namespace Log

/-- Adds entries one after the other. -/
def appendAll (log : Log) (entries : List Entry) : Log := entries.foldl (fun log e => (log.append e).2) log

/-- The entries that are given back while entries are added. -/
def displaced (log : Log) : List Entry → List Entry
  | [] => []
  | e :: es => (log.append e).1.toList ++ (log.append e).2.displaced es

/-- Of the entries that were written, the log still has the last ones, as many as it holds, and has given back the
others. -/
structure Window (log : Log) (room : Nat) (gone written : List Entry) : Prop where
  capacity : log.capacity = room
  whole : gone ++ log.entries = written
  length : log.entries.length = min room written.length

section Window

variable {log : Log} {room : Nat} {gone written : List Entry}

/-- The entries of the log are the last that were written. -/
theorem Window.entries_eq_drop (h : log.Window room gone written) :
    log.entries = written.drop (written.length - room) := by
  have hlength := congrArg List.length h.whole
  rw [List.length_append, h.length] at hlength
  have hgone : written.length - room = gone.length := by omega
  rw [hgone, ← h.whole, List.drop_left]

/-- A log with room gives nothing back, and a full one gives back the oldest entry. -/
theorem Window.append_fst (h : log.Window room gone written) (e : Entry) :
    (log.append e).1 = if log.entries.length = room then log.entries.head? else none := by
  rw [append, h.capacity]
  split <;> rfl

/-- One more entry moves the window on by one, once it is full. -/
theorem Window.append (hroom : 0 < room) (h : log.Window room gone written) (e : Entry) :
    (log.append e).2.Window room (gone ++ (log.append e).1.toList) (written ++ [e]) := by
  have hlength := h.length
  have hwhole := h.whole
  by_cases hfull : log.entries.length = room
  · -- there is an oldest entry to give back, as the log holds one at least
    obtain ⟨old, rest, hentries⟩ := List.exists_cons_of_length_pos (hfull ▸ hroom)
    have happend : log.append e = (some old, { log with entries := rest ++ [e] }) := by
      rw [Log.append, h.capacity, if_pos hfull, hentries]
      rfl
    rw [hentries] at hfull hwhole hlength
    rw [happend]
    refine ⟨h.capacity, ?_, ?_⟩
    · simp [← hwhole]
    · simp only [List.length_append, List.length_cons, List.length_nil] at hfull hlength ⊢
      omega
  · have happend : log.append e = (none, { log with entries := log.entries ++ [e] }) := by
      simp [Log.append, h.capacity, hfull]
    rw [happend]
    refine ⟨h.capacity, ?_, ?_⟩
    · simp [← hwhole]
    · simp only [List.length_append, List.length_cons, List.length_nil]
      omega

theorem Window.appendAll (hroom : 0 < room) (h : log.Window room gone written) (es : List Entry) :
    (log.appendAll es).Window room (gone ++ log.displaced es) (written ++ es) := by
  induction es generalizing log gone written with
  | nil => simpa [Log.appendAll, displaced] using h
  | cons e es ih =>
    have hnext := ih (h.append hroom e)
    rw [List.append_assoc, List.append_assoc] at hnext
    exact hnext

end Window

/-- The log with another next number. -/
def renumber (log : Log) (nextId : Nat) : Log := { log with nextId }

theorem append_renumber (log : Log) (n : Nat) (e : Entry) :
    ((log.renumber n).append e).2 = (log.append e).2.renumber n := by
  unfold append renumber
  split <;> rfl

/-- The number of an entry is its own. -/
theorem append_renumber_self (log : Log) (e : Entry) : (log.append e).2.renumber log.nextId = (log.append e).2 := by
  rw [← append_renumber]
  rfl

theorem appendAll_renumber (log : Log) (n : Nat) (es : List Entry) :
    (log.renumber n).appendAll es = (log.appendAll es).renumber n := by
  induction es generalizing log with
  | nil => rfl
  | cons e es ih =>
    rw [appendAll, List.foldl_cons, append_renumber]
    exact ih (log.append e).2

theorem push_snd (log : Log) (level : Level) (message : String) :
    (log.push level message).2 = (log.append ⟨log.nextId, level, message⟩).2.renumber (log.nextId + 1) := by
  rw [← append_renumber]
  rfl

end Log

/-! ## Messages that are heard -/

/-- What a message says if a realm is live: the event that it carries, if it comes from that realm. -/
def heard (live : Option Realm) (m : Inbound) : Option Event :=
  if live = some m.realm then (Event.ofJson m.data).toOption else none

/-- The entries of events, numbered from a number on. -/
def numbered (id : Nat) : List Event → List Entry
  | [] => []
  | event :: events => ⟨id, event.level, event.payload⟩ :: numbered (id + 1) events

theorem heard_eq_some_iff {live : Option Realm} {m : Inbound} {event : Event} :
    heard live m = some event ↔ live = some m.realm ∧ Event.ofJson m.data = .ok event := by
  unfold heard
  split
  next hlive =>
    cases hread : Event.ofJson m.data with
    | ok e => simp [hlive, Except.toOption]
    | error e => simp [Except.toOption]
  next hlive => simp [hlive]

/-- The log with events written to it. -/
def Log.write (log : Log) (events : List Event) : Log :=
  (log.appendAll (numbered log.nextId events)).renumber (log.nextId + events.length)

theorem Log.write_cons (log : Log) (event : Event) (events : List Event) :
    log.write (event :: events) = (log.push event.level event.payload).2.write events := by
  rw [push_snd, write, write, appendAll_renumber, List.length_cons, Nat.add_comm events.length, ← Nat.add_assoc]
  rfl

namespace Bridge

/-- A message is taken if it is heard, and written to the log. -/
theorem receive_eq (b : Bridge) (m : Inbound) :
    b.receive m = (heard b.live m, { b with log := b.log.write (heard b.live m).toList }) := by
  unfold receive heard
  split
  next =>
    cases Event.ofJson m.data with
    | ok event =>
      rw [Except.toOption, Option.toList_some, Log.write_cons]
      rfl
    | error e => rfl
  next => rfl

theorem receiveAll_eq (b : Bridge) (ms : List Inbound) :
    b.receiveAll ms
      = ((ms.filterMap (heard b.live)).length, { b with log := b.log.write (ms.filterMap (heard b.live)) }) := by
  induction ms generalizing b with
  | nil => rfl
  | cons m ms ih =>
    rw [receiveAll_cons, ih, live_receive, receive_eq, List.filterMap_cons]
    cases heard b.live m with
    | none => exact Prod.ext (Nat.zero_add _) rfl
    | some event =>
      refine Prod.ext (Nat.add_comm _ _) ?_
      simp only [Log.write_cons, Option.toList_some]
      rfl

/-- Taking messages together is taking them one after the other. -/
theorem receiveAll_snd_eq_foldl (b : Bridge) (ms : List Inbound) :
    (b.receiveAll ms).2 = ms.foldl (fun b m => (b.receive m).2) b := by
  induction ms generalizing b with
  | nil => rfl
  | cons m ms ih => exact ih (b.receive m).2

end Bridge

/-! ## Acts -/

namespace Session

/-- What is done to a session, its bridge and its log: the moves of its pages, and what a host does by itself. -/
inductive Act where
  | push (level : Level) (message : String)
  | append (entry : Entry)
  | clear
  | attach (realm : Realm)
  | detach
  | move (move : Move)

/-- The session that an act leaves behind. -/
def perform (s : Session) : Act → Session
  | .push level message => s.mapBridge fun b => { b with log := (b.log.push level message).2 }
  | .append entry => s.mapBridge fun b => { b with log := (b.log.append entry).2 }
  | .clear => s.mapBridge fun b => { b with log := b.log.clear }
  | .attach realm => s.mapBridge (·.attach realm)
  | .detach => s.mapBridge (·.detach)
  | .move move => s.step move

/-- The session that acts leave behind. -/
def performAll (s : Session) (acts : List Act) : Session := acts.foldl perform s

namespace Act

/-- The realm that is live after an act. -/
def live (before : Option Realm) : Act → Option Realm
  | attach realm | move (.load realm _) => some realm
  | detach | move .teardown => none
  | _ => before

/-- Whether the log is cleared, if it is cleared for each page or not. -/
def clears (clearOnReload : Bool) : Act → Bool
  | clear => true
  | move (.load _ _) => clearOnReload
  | _ => false

/-- The events that are written to the log while a realm is live. -/
def events (live : Option Realm) : Act → List Event
  | push level message => [⟨level, message⟩]
  | move m => m.messages.filterMap (heard live)
  | _ => []

/-- The entries that are added to the log; `id` is the next number. -/
def entries (live : Option Realm) (id : Nat) : Act → List Entry
  | append entry => [entry]
  | act => numbered id (act.events live)

end Act

/-- What is known of a session from the acts alone. -/
structure Chronicle where
  /-- The realm that is live. -/
  live : Option Realm
  nextId : Nat
  /-- All entries that were added since the log was cleared. -/
  written : List Entry

namespace Chronicle

/-- Notes an act. -/
def note (clearOnReload : Bool) (c : Chronicle) (act : Act) : Chronicle where
  live := act.live c.live
  nextId := c.nextId + (act.events c.live).length
  written := if act.clears clearOnReload then [] else c.written ++ act.entries c.live c.nextId

/-- The chronicle of some acts. -/
def ofActs (clearOnReload : Bool) (acts : List Act) : Chronicle := acts.foldl (note clearOnReload) ⟨none, 0, []⟩

end Chronicle

/-- The entries that the log gives back during an act. -/
def displaced (s : Session) (act : Act) : List Entry := s.log.displaced (act.entries s.bridge.live s.log.nextId)

/-- The entries that the log has given back since it was cleared, if it has given back others before. -/
def displacedAll (s : Session) (gone : List Entry) : List Act → List Entry
  | [] => gone
  | act :: acts =>
    (s.perform act).displacedAll (if act.clears s.clearOnReload then [] else gone ++ s.displaced act) acts

/-! ## One act -/

theorem live_perform (s : Session) (act : Act) : (s.perform act).bridge.live = act.live s.bridge.live := by
  cases act with
  | move move =>
    rw [perform, live_step]
    cases move <;> rfl
  | _ => rfl

theorem clearOnReload_perform (s : Session) (act : Act) : (s.perform act).clearOnReload = s.clearOnReload := by
  cases act with
  | move move => cases move <;> rfl
  | _ => rfl

/-- An act clears the log, or adds its entries to it one after the other. -/
theorem log_perform (s : Session) (act : Act) :
    (s.perform act).log
      = (if act.clears s.clearOnReload then s.log.clear
          else s.log.appendAll (act.entries s.bridge.live s.log.nextId)).renumber
        (s.log.nextId + (act.events s.bridge.live).length) := by
  cases act with
  | push level message => exact (s.log.write_cons ⟨level, message⟩ []).symm
  | append entry => exact (s.log.append_renumber_self entry).symm
  | clear => rfl
  | attach realm => rfl
  | detach => rfl
  | move move =>
    cases move with
    | load realm source =>
      simp only [perform, step, load, mint, log, Act.clears]
      cases s.clearOnReload <;> rfl
    | teardown => rfl
    | receive message =>
      -- the log is written to as if one event came, or none
      have hevents : (Act.move (.receive message)).events s.bridge.live = (heard s.bridge.live message).toList := by
        cases h : heard s.bridge.live message <;> simp [Act.events, Move.messages, h]
      have hlog : (s.perform (.move (.receive message))).log = s.log.write (heard s.bridge.live message).toList :=
        congrArg (·.2.log) (s.bridge.receive_eq message)
      rw [hlog, Act.entries, hevents]
      · rfl
      · intro entry h
        cases h
    | pump buffer messages =>
      have hpump := (s.bridge.pump_eq_receiveAll buffer messages).trans (s.bridge.receiveAll_eq messages)
      exact congrArg (·.2.log) hpump

/-! ## Histories -/

/-- A session is what its chronicle says, and its log is a window of what was written. -/
structure Follows (s : Session) (c : Chronicle) (clear : Bool) (room : Nat) (gone : List Entry) : Prop where
  live : s.bridge.live = c.live
  nextId : s.log.nextId = c.nextId
  setting : s.clearOnReload = clear
  window : s.log.Window room gone c.written

section Follows

variable {s : Session} {c : Chronicle} {clear : Bool} {room : Nat} {gone : List Entry}

/-- What an act does is what the chronicle notes. -/
theorem Follows.perform (hroom : 0 < room) (h : s.Follows c clear room gone) (act : Act) :
    (s.perform act).Follows (c.note clear act) clear room
      (if act.clears s.clearOnReload then [] else gone ++ s.displaced act) where
  live := by rw [live_perform, h.live]; rfl
  nextId := by rw [log_perform, h.live, h.nextId]; rfl
  setting := by rw [clearOnReload_perform, h.setting]
  window := by
    have hwritten : (c.note clear act).written
        = if act.clears s.clearOnReload then [] else c.written ++ act.entries s.bridge.live s.log.nextId := by
      rw [h.setting, h.live, h.nextId]
      rfl
    rw [log_perform, hwritten]
    split
    next => exact ⟨h.window.capacity, rfl, (Nat.min_zero _).symm⟩
    next =>
      obtain ⟨hcapacity, hwhole, hlength⟩ := h.window.appendAll hroom (act.entries s.bridge.live s.log.nextId)
      exact ⟨hcapacity, hwhole, hlength⟩

theorem Follows.performAll (hroom : 0 < room) (h : s.Follows c clear room gone) (acts : List Act) :
    (s.performAll acts).Follows (acts.foldl (Chronicle.note clear) c) clear room (s.displacedAll gone acts) := by
  induction acts generalizing s c gone with
  | nil => exact h
  | cons act acts ih => exact ih (h.perform hroom act)

end Follows

/-- A new session follows the empty chronicle. -/
theorem Follows.start (capacity : Nat) (clear : Bool) :
    (start (.empty capacity) clear).Follows ⟨none, 0, []⟩ clear (max capacity 1) [] where
  live := rfl
  nextId := rfl
  setting := rfl
  window := ⟨rfl, rfl, (Nat.min_zero _).symm⟩

/-- After any acts, the log shows the last entries that were written since it was cleared, as many as it holds; what it
has given back since then, followed by what it shows, is all that was written. It gives an entry back if it is full, and
then the oldest one. A message is taken if the live realm has posted it and it carries an event, which is then written
to the log, and changes nothing otherwise. Messages that come through a channel, whatever its buffer, are taken one
after the other, and those that are taken are counted. -/
theorem window_run (capacity : Nat) (clear : Bool) (acts : List Act) :
    let s := (start (.empty capacity) clear).performAll acts
    let c := Chronicle.ofActs clear acts
    let room := max capacity 1
    s.log.entries = c.written.drop (c.written.length - room)
      ∧ s.log.entries.length = min room c.written.length
      ∧ (start (.empty capacity) clear).displacedAll [] acts ++ s.log.entries = c.written
      ∧ (∀ entry, ((s.log.append entry).1.isSome ↔ s.log.entries.length = room)
          ∧ ∀ old, (s.log.append entry).1 = some old → s.log.entries.head? = some old)
      ∧ (∀ message,
          (∀ event, (s.bridge.receive message).1 = some event
            ↔ c.live = some message.realm ∧ Event.ofJson message.data = .ok event)
          ∧ (s.bridge.receive message).2 = match (s.bridge.receive message).1 with
            | some event => { s.bridge with log := (s.log.push event.level event.payload).2 }
            | none => s.bridge)
      ∧ ∀ buffer messages,
          s.bridge.pump buffer messages
            = ((messages.filterMap (heard c.live)).length, messages.foldl (fun b m => (b.receive m).2) s.bridge) := by
  intro s c room
  have hroom : 0 < room := Nat.le_max_right _ _
  have hs : s.Follows c clear room ((start (.empty capacity) clear).displacedAll [] acts) :=
    (Follows.start capacity clear).performAll hroom acts
  refine ⟨hs.window.entries_eq_drop, hs.window.length, hs.window.whole, fun entry => ?_, fun message => ?_,
    fun buffer messages => ?_⟩
  · rw [hs.window.append_fst entry]
    split
    next hfull =>
      have hne : s.log.entries ≠ [] := List.ne_nil_of_length_pos (by rw [hfull]; exact hroom)
      exact ⟨by simp [hfull, hne], fun old h => h⟩
    next hfull => exact ⟨by simp [hfull], nofun⟩
  · refine ⟨fun event => ?_, ?_⟩
    · rw [Bridge.receive_eq, hs.live, heard_eq_some_iff]
    · obtain ⟨event, -, h⟩ | h := s.bridge.receive_cases message
      · rw [h]
        rfl
      · rw [h]
  · rw [Bridge.pump_eq_receiveAll, ← hs.live, ← Bridge.receiveAll_snd_eq_foldl, Bridge.receiveAll_eq]

/-- Three lines are pushed to a log that holds two, and then a page is loaded: the first line is given back, and the log
is empty only if it is cleared for each page. -/
example :
    let acts : List Act := [.push .log "a", .push .warn "b", .push .log "c", .move (.load 0 "f()")]
    ((start (.empty 2) false).performAll acts).log.entries = [⟨1, .warn, "b"⟩, ⟨2, .log, "c"⟩]
      ∧ (start (.empty 2) false).displacedAll [] acts = [⟨0, .log, "a"⟩]
      ∧ ((start (.empty 2) true).performAll acts).log.entries = [] := by
  decide

end Session

end Bookmarklet.Preview
