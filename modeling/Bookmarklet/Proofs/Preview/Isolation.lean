import Mathlib.Data.List.Induction
import Mathlib.Data.List.Nodup
import Bookmarklet.Preview.Session

/-!
# Isolation of realms

A history of a session are its moves: pages are loaded, each into a realm of its own, and removed, and messages arrive,
one by one or through a channel. Messages name any realm and carry any data, also those of realms that are gone. The
entries that messages add to the log are recorded in a ledger with the realm that posted them (`Session.ledger`), which
no eviction touches. Every move keeps bridge, page, log and ledger consistent (`Session.Consistent.step`), and a realm
that was replaced or removed is never live again (`Session.live_run_ne`). So the bridge hears the shown page alone,
retired realms change nothing, and a log that is cleared for each page holds only what the last page has posted
(`Session.isolated_run`).
-/

namespace Bookmarklet.Preview

/-! ## Messages -/

/-- A line adds one entry to the log, with the next number, and may displace another. -/
theorem Log.exists_push_eq (log : Log) (level : Level) (message : String) :
    ∃ kept, kept ⊆ log.entries
      ∧ log.push level message
        = (⟨log.nextId, level, message⟩,
          { log with entries := kept ++ [⟨log.nextId, level, message⟩], nextId := log.nextId + 1 }) := by
  by_cases hfull : log.entries.length = log.capacity
  · exact ⟨log.entries.drop 1, List.drop_subset _ _, by simp [push, newEntry, append, hfull]⟩
  · exact ⟨log.entries, List.Subset.refl _, by simp [push, newEntry, append, hfull]⟩

namespace Bridge

/-- The entry that a message adds to the log, with the realm that posted it. -/
def posting (b : Bridge) (message : Inbound) : List (Realm × Entry) :=
  match (b.receive message).1 with
  | some event => [(message.realm, (b.log.push event.level event.payload).1)]
  | none => []

/-- The entries that messages add to the log one after the other. -/
def postings (b : Bridge) : List Inbound → List (Realm × Entry)
  | [] => []
  | m :: ms => b.posting m ++ (b.receive m).2.postings ms

/-- A message is written to the log, if its realm is live, or changes nothing. -/
theorem receive_cases (b : Bridge) (m : Inbound) :
    (∃ event, b.live = some m.realm
        ∧ b.receive m = (some event, { b with log := (b.log.push event.level event.payload).2 }))
      ∨ b.receive m = (none, b) := by
  by_cases h : b.live = some m.realm
  · cases he : Event.ofJson m.data with
    | ok event => exact .inl ⟨event, h, by simp [receive, h, he]⟩
    | error e => exact .inr (by simp [receive, h, he])
  · exact .inr (by simp [receive, h])

/-- A message of a realm that is not live is lost. -/
theorem receive_of_ne {b : Bridge} {m : Inbound} (h : b.live ≠ some m.realm) : b.receive m = (none, b) := by
  rw [receive, if_neg h]

@[simp] theorem live_receive (b : Bridge) (m : Inbound) : (b.receive m).2.live = b.live := by
  rcases b.receive_cases m with ⟨event, -, h⟩ | h <;> rw [h]

theorem receiveAll_cons (b : Bridge) (m : Inbound) (ms : List Inbound) :
    b.receiveAll (m :: ms)
      = ((if (b.receive m).1.isSome then 1 else 0) + ((b.receive m).2.receiveAll ms).1,
        ((b.receive m).2.receiveAll ms).2) := rfl

@[simp] theorem live_receiveAll (b : Bridge) (ms : List Inbound) : (b.receiveAll ms).2.live = b.live := by
  induction ms generalizing b with
  | nil => rfl
  | cons m ms ih => simp [receiveAll_cons, ih]

/-- Messages may arrive in two parts. -/
theorem receiveAll_append (b : Bridge) (ms ns : List Inbound) :
    b.receiveAll (ms ++ ns)
      = ((b.receiveAll ms).1 + ((b.receiveAll ms).2.receiveAll ns).1, ((b.receiveAll ms).2.receiveAll ns).2) := by
  induction ms generalizing b with
  | nil => simp [receiveAll]
  | cons m ms ih => simp [receiveAll_cons, ih, Nat.add_assoc]

/-- However small the channel is, the messages arrive one after the other. -/
theorem pumpFrom_eq_receiveAll (room : Nat) (waiting : List Inbound) (b : Bridge) (ms : List Inbound) :
    pumpFrom room waiting b ms = b.receiveAll (waiting ++ ms) := by
  induction ms generalizing waiting b with
  | nil => rw [pumpFrom, List.append_nil]
  | cons m ms ih =>
    rw [pumpFrom]
    split
    · rw [ih, List.append_assoc, List.singleton_append]
    · simp only [ih, receiveAll_append, List.singleton_append]

theorem pump_eq_receiveAll (b : Bridge) (buffer : Nat) (ms : List Inbound) : b.pump buffer ms = b.receiveAll ms :=
  pumpFrom_eq_receiveAll _ [] b ms

/-- Messages of a realm that is not live may as well be left out. -/
theorem receiveAll_filter {r : Realm} {b : Bridge} (h : b.live ≠ some r) (ms : List Inbound) :
    b.receiveAll (ms.filter (·.realm ≠ r)) = b.receiveAll ms := by
  induction ms generalizing b with
  | nil => rfl
  | cons m ms ih =>
    by_cases hm : m.realm = r
    · have hlost : b.receive m = (none, b) := receive_of_ne (by rwa [hm])
      rw [List.filter_cons_of_neg (by simp [hm]), ih h, receiveAll_cons, hlost]
      simp
    · have hlive : (b.receive m).2.live ≠ some r := by rwa [live_receive]
      rw [List.filter_cons_of_pos (by simp [hm]), receiveAll_cons, ih hlive, receiveAll_cons]

/-- Each entry of the log is in the ledger as posted by one of the realms that may have posted it. Entries of the ledger
are told apart by their numbers, which are below the next one. -/
structure Kept (b : Bridge) (ledger : List (Realm × Entry)) (mayPost : Realm → Prop) : Prop where
  posted : ∀ e ∈ b.log.entries, ∃ r, mayPost r ∧ (r, e) ∈ ledger
  numbered : ∀ p ∈ ledger, p.2.id < b.log.nextId
  distinct : (ledger.map (·.2.id)).Nodup

section Kept

variable {b : Bridge} {ledger : List (Realm × Entry)} {mayPost : Realm → Prop}

/-- A message adds at most one entry, with a new number, and may displace another. -/
theorem Kept.receive (h : b.Kept ledger mayPost) (hlive : ∀ r, b.live = some r → mayPost r) (m : Inbound) :
    (b.receive m).2.Kept (ledger ++ b.posting m) mayPost := by
  rcases b.receive_cases m with ⟨event, hrealm, heq⟩ | heq
  · obtain ⟨kept, hkept, hpush⟩ := b.log.exists_push_eq event.level event.payload
    rw [posting, heq, hpush]
    refine ⟨fun e he => ?_, fun p hp => ?_, ?_⟩
    · rcases List.mem_append.mp he with hold | hnew
      · obtain ⟨r, hr, hin⟩ := h.posted e (hkept hold)
        exact ⟨r, hr, List.mem_append_left _ hin⟩
      · rw [List.mem_singleton.mp hnew]
        exact ⟨m.realm, hlive _ hrealm, List.mem_append_right _ (List.mem_singleton_self _)⟩
    · rcases List.mem_append.mp hp with hold | hnew
      · exact Nat.lt_succ_of_lt (h.numbered p hold)
      · rw [List.mem_singleton.mp hnew]
        exact Nat.lt_succ_self _
    · rw [List.map_append, List.nodup_append]
      refine ⟨h.distinct, List.nodup_singleton _, ?_⟩
      rintro id hold _ hnew rfl
      obtain ⟨p, hp, rfl⟩ := List.mem_map.mp hold
      rw [List.map_singleton, List.mem_singleton] at hnew
      exact absurd (h.numbered p hp) (by rw [hnew]; exact Nat.lt_irrefl _)
  · rw [posting, heq, List.append_nil]
    exact h

theorem Kept.receiveAll (h : b.Kept ledger mayPost) (hlive : ∀ r, b.live = some r → mayPost r) (ms : List Inbound) :
    (b.receiveAll ms).2.Kept (ledger ++ b.postings ms) mayPost := by
  induction ms generalizing b ledger with
  | nil => simpa [Bridge.receiveAll, postings] using h
  | cons m ms ih =>
    rw [postings, ← List.append_assoc, receiveAll_cons]
    exact ih (h.receive hlive m) (by rwa [live_receive])

end Kept

end Bridge

/-! ## Histories -/

namespace Session

/-- What happens to a session. -/
inductive Move where
  /-- Loads a page, into the realm that is minted for it. -/
  | load (realm : Realm) (source : String)
  | teardown
  | receive (message : Inbound)
  | pump (buffer : Nat) (messages : List Inbound)

namespace Move

/-- The realm of the page that is loaded. -/
def realm? : Move → Option Realm
  | load realm _ => some realm
  | _ => none

/-- Whether the page that was shown is replaced or removed. -/
def retires : Move → Bool
  | load _ _ | teardown => true
  | _ => false

/-- The messages that arrive. -/
def messages : Move → List Inbound
  | receive message => [message]
  | pump _ messages => messages
  | _ => []

end Move

/-- The session that a move leaves behind. -/
def step (s : Session) : Move → Session
  | .load realm source => ({ s with nextRealm := realm }.load source).2
  | .teardown => s.teardown
  | .receive message => s.mapBridge fun b => (b.receive message).2
  | .pump buffer messages => s.mapBridge fun b => (b.pump buffer messages).2

/-- The session that a history leaves behind. -/
def run (s : Session) (moves : List Move) : Session := moves.foldl step s

/-- The entries that a history adds to the log, each with the realm that posted it. -/
def ledger (s : Session) : List Move → List (Realm × Entry)
  | [] => []
  | move :: moves => s.bridge.postings move.messages ++ (s.step move).ledger moves

/-- The realms of the pages that are loaded, the latest last. -/
def loaded (moves : List Move) : List Realm := moves.filterMap Move.realm?

/-- The realm belongs to a page that was loaded, and replaced or removed later. -/
def Retired (moves : List Move) (realm : Realm) : Prop :=
  ∃ before move after, moves = before ++ move :: after ∧ realm ∈ loaded before ∧ move.retires

section Concat

variable (s : Session) (moves : List Move) (move : Move)

theorem run_concat : s.run (moves ++ [move]) = (s.run moves).step move := by simp [run]

theorem ledger_concat :
    s.ledger (moves ++ [move]) = s.ledger moves ++ (s.run moves).bridge.postings move.messages := by
  induction moves generalizing s with
  | nil => simp [ledger, run]
  | cons first moves ih => simp [ledger, ih, run]

theorem loaded_concat : loaded (moves ++ [move]) = loaded moves ++ move.realm?.toList := by
  rw [loaded, List.filterMap_append, loaded]
  cases move <;> rfl

end Concat

/-! ## Consistent sessions -/

/-- The bridge hears the page that is shown, which is that of the last realm loaded, and each entry of the log is in the
ledger; if the log is cleared for each page, as posted by the last realm. -/
structure Consistent (s : Session) (clear : Bool) (loads : List Realm) (ledger : List (Realm × Entry)) : Prop where
  live : s.bridge.live = s.current.map (·.realm)
  latest : ∀ r, s.bridge.live = some r → loads.getLast? = some r
  setting : s.clearOnReload = clear
  kept : s.bridge.Kept ledger fun r => clear → loads.getLast? = some r

theorem Consistent.start (capacity : Nat) (clear : Bool) : (start (.empty capacity) clear).Consistent clear [] [] where
  live := rfl
  latest _ h := by cases h
  setting := rfl
  kept := ⟨fun e he => (List.not_mem_nil he).elim, fun p hp => (List.not_mem_nil hp).elim, List.nodup_nil⟩

section Consistent

variable {s : Session} {clear : Bool} {loads : List Realm} {ledger : List (Realm × Entry)}

/-- Messages leave a session consistent. -/
theorem Consistent.receiveAll (h : s.Consistent clear loads ledger) (messages : List Inbound) :
    (s.mapBridge fun b => (b.receiveAll messages).2).Consistent clear loads
      (ledger ++ s.bridge.postings messages) where
  live := by
    rw [mapBridge, Bridge.live_receiveAll]
    exact h.live
  latest := by
    rw [mapBridge, Bridge.live_receiveAll]
    exact h.latest
  setting := h.setting
  kept := h.kept.receiveAll (fun r hr _ => h.latest r hr) messages

/-- A page that is loaded leaves the log empty, if it is cleared for each page. -/
theorem Consistent.load (h : s.Consistent clear loads ledger) (realm : Realm) (source : String) :
    (s.step (.load realm source)).Consistent clear (loads ++ [realm]) ledger := by
  have hclear := h.setting
  cases clear with
  | true =>
    -- nothing is left that another realm could have posted
    have hstep : s.step (.load realm source)
        = { s with
            bridge := ⟨some realm, s.bridge.log.clear⟩, current := some ⟨realm, document source⟩,
            nextRealm := realm + 1 } := by
      simp [Session.step, Session.load, mint, Bridge.attach, hclear]
    rw [hstep]
    refine ⟨rfl, fun r hr => ?_, hclear, fun e he => (List.not_mem_nil he).elim, h.kept.numbered, h.kept.distinct⟩
    rw [List.getLast?_concat]
    exact hr
  | false =>
    have hstep : s.step (.load realm source)
        = { s with
            bridge := { s.bridge with live := some realm }, current := some ⟨realm, document source⟩,
            nextRealm := realm + 1 } := by
      simp [Session.step, Session.load, mint, Bridge.attach, hclear]
    rw [hstep]
    refine ⟨rfl, fun r hr => ?_, hclear, fun e he => ?_, h.kept.numbered, h.kept.distinct⟩
    · rw [List.getLast?_concat]
      exact hr
    · obtain ⟨r, -, hin⟩ := h.kept.posted e he
      exact ⟨r, nofun, hin⟩

/-- Every move leaves a session consistent. -/
theorem Consistent.step (h : s.Consistent clear loads ledger) (move : Move) :
    (s.step move).Consistent clear (loads ++ move.realm?.toList) (ledger ++ s.bridge.postings move.messages) := by
  cases move with
  | load realm source =>
    rw [show ledger ++ s.bridge.postings (Move.load realm source).messages = ledger from List.append_nil _]
    exact h.load realm source
  | teardown =>
    rw [show loads ++ Move.teardown.realm?.toList = loads from List.append_nil _,
      show ledger ++ s.bridge.postings Move.teardown.messages = ledger from List.append_nil _]
    exact ⟨rfl, nofun, h.setting, h.kept.posted, h.kept.numbered, h.kept.distinct⟩
  | receive message =>
    rw [show loads ++ (Move.receive message).realm?.toList = loads from List.append_nil _]
    exact h.receiveAll [message]
  | pump buffer messages =>
    rw [show loads ++ (Move.pump buffer messages).realm?.toList = loads from List.append_nil _, Session.step]
    simp only [Bridge.pump_eq_receiveAll]
    exact h.receiveAll messages

end Consistent

/-- Every history leaves a session consistent. -/
theorem consistent_run (capacity : Nat) (clear : Bool) (moves : List Move) :
    ((start (.empty capacity) clear).run moves).Consistent clear (loaded moves)
      ((start (.empty capacity) clear).ledger moves) := by
  induction moves using List.reverseRecOn with
  | nil => exact .start capacity clear
  | append_singleton moves move ih =>
    rw [run_concat, loaded_concat, ledger_concat]
    exact ih.step move

/-! ## Realms that are gone -/

/-- The realm that is live after a move is that of the page which is loaded, none if a page is removed, and otherwise
the one that was. -/
theorem live_step (s : Session) (move : Move) :
    (s.step move).bridge.live = if move.retires then move.realm? else s.bridge.live := by
  cases move with
  | load realm source =>
    simp only [step, load, mint, Bridge.attach]
    cases s.clearOnReload <;> rfl
  | teardown => rfl
  | receive message => exact s.bridge.live_receive message
  | pump buffer messages =>
    rw [step, mapBridge, Bridge.pump_eq_receiveAll]
    exact s.bridge.live_receiveAll messages

/-- A realm that was replaced or removed is not live again, if no realm is minted twice. -/
theorem live_run_ne (s : Session) {moves : List Move} (hfresh : (loaded moves).Nodup) {realm : Realm}
    (h : Retired moves realm) : (s.run moves).bridge.live ≠ some realm := by
  obtain ⟨before, move, after, rfl, hloaded, hretires⟩ := h
  -- a move that makes a realm live loads it anew, and `realm` was loaded before
  have hne : ∀ {moves : List Move} {next : Move}, realm ∈ loaded moves → (loaded (moves ++ [next])).Nodup →
      next.realm? ≠ some realm := by
    intro moves next hmem hnodup heq
    rw [loaded_concat, heq, List.nodup_append] at hnodup
    exact hnodup.2.2 realm hmem realm (List.mem_singleton_self _) rfl
  induction after using List.reverseRecOn with
  | nil =>
    rw [run_concat, live_step, if_pos hretires]
    exact hne hloaded hfresh
  | append_singleton after next ih =>
    rw [← List.cons_append, ← List.append_assoc] at hfresh ⊢
    rw [run_concat, live_step]
    have hbefore : (loaded (before ++ move :: after)).Nodup := by
      rw [loaded_concat] at hfresh
      exact hfresh.of_append_left
    split
    · refine hne ?_ hfresh
      rw [loaded, List.filterMap_append]
      exact List.mem_append_left _ hloaded
    · exact ih hbefore

/-- After any history, in which no realm is minted twice: the bridge hears the page that is shown, and nothing if none
is; a message of a realm that was replaced or removed is neither accepted nor does it change anything, alone or among
others; and if the log is cleared for each page, then the last realm loaded has posted each entry, and no other has. -/
theorem isolated_run (capacity : Nat) (clear : Bool) (moves : List Move) (hfresh : (loaded moves).Nodup) :
    let s := (start (.empty capacity) clear).run moves
    let ledger := (start (.empty capacity) clear).ledger moves
    s.bridge.live = s.current.map (·.realm)
      ∧ (∀ realm, Retired moves realm →
          (∀ data, s.bridge.receive ⟨realm, data⟩ = (none, s.bridge))
            ∧ ∀ buffer messages,
              s.bridge.pump buffer messages = s.bridge.pump buffer (messages.filter (·.realm ≠ realm)))
      ∧ (clear →
          ∀ e ∈ s.log.entries, ∃ realm, (loaded moves).getLast? = some realm ∧ ∀ r, (r, e) ∈ ledger ↔ r = realm) := by
  intro s ledger
  have hs : s.Consistent clear (loaded moves) ledger := consistent_run capacity clear moves
  refine ⟨hs.live, fun realm hretired => ?_, fun hclear e he => ?_⟩
  · have hlive : s.bridge.live ≠ some realm := live_run_ne _ hfresh hretired
    refine ⟨fun data => Bridge.receive_of_ne hlive, fun buffer messages => ?_⟩
    rw [Bridge.pump_eq_receiveAll, Bridge.pump_eq_receiveAll, Bridge.receiveAll_filter hlive]
  · obtain ⟨realm, hlast, hin⟩ := hs.kept.posted e he
    refine ⟨realm, hlast hclear, fun r => ⟨fun hr => ?_, fun hr => hr ▸ hin⟩⟩
    have hsame := List.inj_on_of_nodup_map hs.kept.distinct hr hin rfl
    exact congrArg Prod.fst hsame

/-- A page is replaced, and then a line of each of the two pages arrives: only the second one is in the log. -/
theorem isolated_run_reload :
    let tick := (Event.mk .log "tick").toJson
    let moves : List Move := [.load 7 "f()", .receive ⟨7, tick⟩, .load 4 "g()", .pump 1 [⟨7, tick⟩, ⟨4, tick⟩]]
    let s := (start (.empty 2) true).run moves
    (loaded moves).Nodup ∧ Retired moves 7 ∧ s.bridge.live = s.current.map (·.realm)
      ∧ s.bridge.receive ⟨7, tick⟩ = (none, s.bridge)
      ∧ s.log.entries = [⟨1, .log, "tick"⟩]
      ∧ ∃ realm, (loaded moves).getLast? = some realm
        ∧ ∀ r, (r, ⟨1, .log, "tick"⟩) ∈ (start (.empty 2) true).ledger moves ↔ r = realm := by
  intro tick moves s
  have hfresh : (loaded moves).Nodup := by decide
  have hretired : Retired moves 7 :=
    ⟨[.load 7 "f()", .receive ⟨7, tick⟩], .load 4 "g()", [.pump 1 [⟨7, tick⟩, ⟨4, tick⟩]], rfl, by decide, rfl⟩
  have hentries : s.log.entries = [⟨1, .log, "tick"⟩] := by rfl
  obtain ⟨hlive, hlost, hlast⟩ := isolated_run 2 true moves hfresh
  exact ⟨hfresh, hretired, hlive, (hlost 7 hretired).1 tick, hentries,
    hlast rfl ⟨1, .log, "tick"⟩ (hentries ▸ List.mem_singleton_self _)⟩

end Session

end Bookmarklet.Preview
