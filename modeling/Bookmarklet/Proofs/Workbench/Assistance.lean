import Bookmarklet.Proofs.Screening.Coverage
import Bookmarklet.Workbench

/-!
# What the assistant may do to a draft

Whoever answers for the assistant, in whatever monad, the answer is a reply, and what follows is settled by the reply
and the workbench alone (`Workbench.assist_eq`). Each kind of reply has one outcome (`Workbench.Outcome`): code that
keeps to the limit and contains nothing banned becomes the draft, with the advice of the gate instead of what warnings
came with it; all else leaves the workbench as it was (`Workbench.outcome_settle`).

Whatever an author plans, what comes out is the end of a history of acts and replies (`Workbench.enact_eq`). Along any
history it is known where the script of the draft comes from, and if it came from the assistant, it has passed the gate
that was in place when it came (`Workbench.Origin.Accounts.replay`).
-/

namespace Bookmarklet

/-! ## Code that passes the gate -/

/-- A script keeps to a limit, and nothing in it is banned. -/
def Screening.Passes (limit : Nat) (script : String) : Prop :=
  script.toList.length ≤ limit ∧ isBanned script.toList = false

namespace Assist.Assistant

variable {m : Type → Type}

/-- The reply that the assistant starts from. -/
def consult [Monad m] (a : Assistant m) (request : Request) : m (Except AssistError Response) :=
  match a.provider with
  | none => return .ok (.blocked disabledReason)
  | some provider => provider request

/-- How many characters code may have that answers a request. -/
def limitFor (a : Assistant m) (request : Request) : Nat := request.options.maxChars.getD a.gate.limit

/-- An answer is what the gate makes of a reply. -/
theorem answer_eq [Monad m] [LawfulMonad m] (a : Assistant m) (request : Request) :
    a.answer request = (·.map (pass a.gate request)) <$> a.consult request := by
  unfold answer consult
  cases a.provider with
  | none =>
    rw [map_pure]
    rfl
  | some provider => rw [← bind_pure_comp]

end Assist.Assistant

namespace Workbench

variable {m : Type → Type}

/-! ## Replies and their outcomes -/

/-- What a response leads to: the answer that the author sees, and the workbench afterwards. -/
def deliver (w : Workbench m) (response : Response) : Except AssistanceError Response × Workbench m :=
  match w.take response with
  | .error e => (.error (.draft e), w)
  | .ok w => (.ok response, w)

/-- What a reply leads to, once its code has come to the gate. -/
def settle (w : Workbench m) (request : Assist.Request) (reply : Except Assist.AssistError Response) :
    Except AssistanceError Response × Workbench m :=
  match reply.map (Assist.Assistant.pass w.assistant.gate request) with
  | .error e => (.error (.assist e), w)
  | .ok response => w.deliver response

/-- To ask the assistant is to have a reply and to settle it. -/
theorem assist_eq [Monad m] [LawfulMonad m] (w : Workbench m) (request : Assist.Request) :
    w.assist request = w.settle request <$> w.assistant.consult request := by
  rw [assist, Assist.Assistant.answer_eq, bind_map_left, ← bind_pure_comp]
  refine bind_congr fun reply => ?_
  cases hanswer : reply.map (Assist.Assistant.pass w.assistant.gate request) with
  | error e => simp only [settle, hanswer]
  | ok response =>
    cases htake : w.take response with
    | error e => simp only [settle, deliver, hanswer, htake]
    | ok w => simp only [settle, deliver, hanswer, htake]

/-- Code comes to the gate without its warnings. -/
theorem settle_code (w : Workbench m) (request : Assist.Request) (script : String) (given : List String) :
    w.settle request (.ok (.code script given))
      = w.deliver (Screening.screen (w.assistant.limitFor request) script) := rfl

/-- The outcomes of a reply, one for each way that it can go. -/
inductive Outcome (w : Workbench m) (request : Assist.Request) :
    Except Assist.AssistError Response → Except AssistanceError Response × Workbench m → Prop where
  | failed (e : Assist.AssistError) : Outcome w request (.error e) (.error (.assist e), w)
  | refused (reason : String) :
    Outcome w request (.ok (.blocked reason)) (.error (.draft (.blocked reason)), w)
  | explained (lines : List String) :
    Outcome w request (.ok (.explanation lines)) (.ok (.explanation lines), w)
  | tooLong (script : String) (given : List String)
    (hlong : w.assistant.limitFor request < script.toList.length) :
    Outcome w request (.ok (.code script given))
      (.error (.draft (.blocked (Screening.tooLongReason script.toList.length))), w)
  | banned (script : String) (given : List String)
    (hlength : script.toList.length ≤ w.assistant.limitFor request) (hbanned : Screening.isBanned script.toList) :
    Outcome w request (.ok (.code script given)) (.error (.draft (.blocked Screening.bannedReason)), w)
  | passed (script : String) (given : List String)
    (hpasses : Screening.Passes (w.assistant.limitFor request) script) :
    Outcome w request (.ok (.code script given))
      (.ok (.code script (Screening.warnings script)), { w with draft := ⟨script, none, false⟩ })

/-- Every reply has its outcome. -/
theorem outcome_settle (w : Workbench m) (request : Assist.Request) (reply : Except Assist.AssistError Response) :
    w.Outcome request reply (w.settle request reply) := by
  cases reply with
  | error e => exact .failed e
  | ok response =>
    cases response with
    | blocked reason => exact .refused reason
    | explanation lines => exact .explained lines
    | code script given =>
      rw [settle_code, Screening.screen]
      split
      next hlong => exact .tooLong script given hlong
      next hlength =>
        split
        next hbanned => exact .banned script given (Nat.not_lt.1 hlength) hbanned
        next hclear => exact .passed script given ⟨Nat.not_lt.1 hlength, by simpa using hclear⟩

/-- The assistant answers with code that has passed the gate, which becomes the draft, or with an explanation or an
error, and then nothing has changed. -/
theorem settle_cases (w : Workbench m) (request : Assist.Request) (reply : Except Assist.AssistError Response) :
    (∃ script, Screening.Passes (w.assistant.limitFor request) script
        ∧ w.settle request reply
          = (.ok (.code script (Screening.warnings script)), { w with draft := ⟨script, none, false⟩ }))
      ∨ (((∃ lines, (w.settle request reply).1 = .ok (.explanation lines))
          ∨ ∃ e, (w.settle request reply).1 = .error e)
        ∧ (w.settle request reply).2 = w) := by
  generalize hsettled : w.settle request reply = settled
  have houtcome : w.Outcome request reply settled := hsettled ▸ w.outcome_settle request reply
  cases houtcome with
  | failed e => exact .inr ⟨.inr ⟨_, rfl⟩, rfl⟩
  | refused reason => exact .inr ⟨.inr ⟨_, rfl⟩, rfl⟩
  | explained lines => exact .inr ⟨.inl ⟨lines, rfl⟩, rfl⟩
  | tooLong script given hlong => exact .inr ⟨.inr ⟨_, rfl⟩, rfl⟩
  | banned script given hlength hbanned => exact .inr ⟨.inr ⟨_, rfl⟩, rfl⟩
  | passed script given hpasses => exact .inl ⟨script, hpasses, rfl⟩

/-! ## Histories -/

/-- What is done with a workbench, but for asking the assistant. -/
inductive Act (m : Type → Type) where
  /-- The author changes the draft, in whatever way. -/
  | edit (change : Draft → Draft)
  | build
  | preview
  /-- Pages or the host do something to the bridge, in whatever way. -/
  | converse (change : Preview.Bridge → Preview.Bridge)
  | employ (assistant : Assist.Assistant m)

/-- Something that has happened to a workbench. -/
inductive Turn (m : Type → Type) where
  | act (act : Act m)
  /-- The author has asked the assistant, and somebody has replied, in whatever way. -/
  | ask (request : Assist.Request) (reply : Except Assist.AssistError Response)

/-- The workbench that an act leaves behind. -/
def perform (w : Workbench m) : Act m → Workbench m
  | .edit change => { w with draft := change w.draft }
  | .build =>
    match w.build with
    | .ok w => w
    | .error _ => w
  | .preview => w.preview.2
  | .converse change => { w with session := w.session.mapBridge change }
  | .employ assistant => w.withAssistant assistant

/-- The workbench that a turn leaves behind. -/
def follow (w : Workbench m) : Turn m → Workbench m
  | .act act => w.perform act
  | .ask request reply => (w.settle request reply).2

/-- The workbench that a history leaves behind. -/
def replay (w : Workbench m) (turns : List (Turn m)) : Workbench m := turns.foldl follow w

section Plans

variable [Monad m]

/-- Does what is planned: some acts, and some requests to the assistant. -/
def enact (w : Workbench m) : List (Act m ⊕ Assist.Request) → m (Workbench m)
  | [] => return w
  | .inl act :: plan => (w.perform act).enact plan
  | .inr request :: plan => do
    let (_, w) ← w.assist request
    w.enact plan

/-- The history that a plan leads to, with the replies that come meanwhile. -/
def record (w : Workbench m) : List (Act m ⊕ Assist.Request) → m (List (Turn m))
  | [] => return []
  | .inl act :: plan => (.act act :: ·) <$> (w.perform act).record plan
  | .inr request :: plan => do
    let reply ← w.assistant.consult request
    (.ask request reply :: ·) <$> (w.settle request reply).2.record plan

/-- Whatever is planned, what comes out is the end of a history. -/
theorem enact_eq [LawfulMonad m] (w : Workbench m) (plan : List (Act m ⊕ Assist.Request)) :
    w.enact plan = w.replay <$> w.record plan := by
  induction plan generalizing w with
  | nil => rw [enact, record, map_pure]; rfl
  | cons step plan ih =>
    cases step with
    | inl act =>
      rw [enact, record, Functor.map_map, ih]
      rfl
    | inr request =>
      rw [enact, record, assist_eq, bind_map_left, map_bind]
      refine bind_congr fun reply => ?_
      rw [Functor.map_map]
      exact ih (w.settle request reply).2

end Plans

/-- Where the script of a draft comes from. -/
inductive Origin where
  /-- It was there from the start. -/
  | start
  | author
  /-- The assistant has brought it, when code might have that many characters. -/
  | assistant (limit : Nat)

/-- Where the script comes from after a turn: from the author if an edit has changed it, from the assistant if there was
code in the answer, and otherwise from where it came before. -/
def originAfter (w : Workbench m) (origin : Origin) : Turn m → Origin
  | .act (.edit change) => if (change w.draft).source = w.draft.source then origin else .author
  | .act _ => origin
  | .ask request reply =>
    match (w.settle request reply).1 with
    | .ok (.code _ _) => .assistant (w.assistant.limitFor request)
    | _ => origin

/-- Where the script comes from after a history. -/
def originAfterAll (w : Workbench m) (origin : Origin) : List (Turn m) → Origin
  | [] => origin
  | turn :: turns => (w.follow turn).originAfterAll (w.originAfter origin turn) turns

/-- What is known of a script by its origin; `first` was there at the start. -/
def Origin.Accounts (first script : String) : Origin → Prop
  | start => script = first
  | author => True
  | assistant limit => Screening.Passes limit script

section Histories

variable {w : Workbench m} {first : String} {origin : Origin}

/-- To build the link of a draft leaves its script as it was. -/
theorem source_build (w : Workbench m) : (w.perform .build).draft.source = w.draft.source := by
  simp only [perform, build]
  cases hbuild : w.draft.buildCached w.cache with
  | error e => rfl
  | ok built =>
    unfold Draft.buildCached at hbuild
    split at hbuild
    next => cases hbuild
    next =>
      cases hbuild
      rfl

/-- A turn leaves a script of known origin. -/
theorem Origin.Accounts.follow (h : origin.Accounts first w.draft.source) (turn : Turn m) :
    (w.originAfter origin turn).Accounts first (w.follow turn).draft.source := by
  cases turn with
  | act act =>
    cases act with
    | edit change =>
      rw [originAfter]
      split
      next hsame => exact hsame ▸ h
      next => trivial
    | build => exact w.source_build ▸ h
    | preview => exact h
    | converse change => exact h
    | employ assistant => exact h
  | ask request reply =>
    obtain ⟨script, hpasses, hsettled⟩ | ⟨hanswer, hsame⟩ := w.settle_cases request reply
    · simp only [originAfter, Workbench.follow, hsettled]
      exact hpasses
    · -- there is no code in the answer, so the script is the one that was there
      have horigin : w.originAfter origin (.ask request reply) = origin := by
        obtain ⟨lines, hlines⟩ | ⟨e, he⟩ := hanswer
        · simp only [originAfter, hlines]
        · simp only [originAfter, he]
      rw [horigin, Workbench.follow, hsame]
      exact h

/-- Every history leaves a script of known origin. -/
theorem Origin.Accounts.replay (h : origin.Accounts first w.draft.source) (turns : List (Turn m)) :
    (w.originAfterAll origin turns).Accounts first (w.replay turns).draft.source := by
  induction turns generalizing w origin with
  | nil => exact h
  | cons turn turns ih => exact ih (h.follow turn)

end Histories

/-- Whoever replies to the assistant, in whatever monad: to ask it is to settle the reply, which has the outcome that it
should have. The answer is either code that keeps to the limit of the request, or else of the gate, that contains
nothing banned, that comes with the advice about it, and that becomes the draft, or an explanation or an error that
changes nothing. Whatever is planned, what comes out is the end of a history; and after any history, a script that was
there neither at the start nor from the author has passed the gate that the assistant had when it came. -/
theorem assist_gated [Monad m] [LawfulMonad m] (w : Workbench m) :
    (∀ request, w.assist request = w.settle request <$> w.assistant.consult request
      ∧ ∀ reply, w.Outcome request reply (w.settle request reply))
    ∧ (∀ request reply,
      (∃ script, script.toList.length ≤ request.options.maxChars.getD w.assistant.gate.limit
        ∧ Screening.isBanned script.toList = false
        ∧ w.settle request reply
          = (.ok (.code script (Screening.warnings script)), { w with draft := ⟨script, none, false⟩ }))
      ∨ (((∃ lines, (w.settle request reply).1 = .ok (.explanation lines))
          ∨ ∃ e, (w.settle request reply).1 = .error e)
        ∧ (w.settle request reply).2 = w))
    ∧ (∀ plan, w.enact plan = w.replay <$> w.record plan)
    ∧ ∀ turns, (w.originAfterAll .start turns).Accounts w.draft.source (w.replay turns).draft.source := by
  refine ⟨fun request => ⟨w.assist_eq request, w.outcome_settle request⟩, fun request reply => ?_, w.enact_eq, ?_⟩
  · obtain ⟨script, ⟨hlength, hclear⟩, hsettled⟩ | hsame := w.settle_cases request reply
    · exact .inl ⟨script, hlength, hclear, hsettled⟩
    · exact .inr hsame
  · intro turns
    have hstart : Origin.start.Accounts w.draft.source w.draft.source := rfl
    exact hstart.replay turns

/-- A service calls its first script fine and repeats itself with a banned one: the first reply becomes the draft, the
second one changes nothing. -/
theorem assist_gated_service :
    let service : Assist.Provider (StateM Nat) := fun _ calls =>
      (.ok (.code (if calls = 0 then "f()" else "fetch(u)") ["fine"]), calls + 1)
    let w : Workbench (StateM Nat) := (start .default).withAssistant ⟨some service, ⟨9⟩⟩
    let request := Assist.Request.generate "links"
    LawfulMonad (StateM Nat)
      ∧ w.assist request 0
        = ((.ok (.code "f()" (Screening.warnings "f()")), { w with draft := ⟨"f()", none, false⟩ }), 1)
      ∧ w.assist request 1 = ((.error (.draft (.blocked Screening.bannedReason)), w), 2) := by
  intro service w request
  have hassist : w.assist request = w.settle request <$> w.assistant.consult request := ((assist_gated w).1 request).1
  have hcall (calls : Nat) : w.assist request calls
      = (w.settle request (.ok (.code (if calls = 0 then "f()" else "fetch(u)") ["fine"])), calls + 1) := by
    rw [hassist]
    rfl
  have hpasses : Screening.screen 9 "f()" = .code "f()" (Screening.warnings "f()") :=
    Screening.screen_eq_code_iff.2 ⟨by decide +kernel, by decide +kernel, rfl, rfl⟩
  have hbanned : Screening.screen 9 "fetch(u)" = .blocked Screening.bannedReason := by
    rw [Screening.screen, if_neg (by decide +kernel), if_pos (by decide +kernel)]
  refine ⟨inferInstance, ?_, ?_⟩
  · rw [hcall]
    show (w.deliver (Screening.screen 9 "f()"), 1) = _
    rw [hpasses]
    rfl
  · rw [hcall]
    show (w.deliver (Screening.screen 9 "fetch(u)"), 2) = _
    rw [hbanned]
    rfl

end Workbench
end Bookmarklet
