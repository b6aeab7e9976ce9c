import Bookmarklet.Config
import Bookmarklet.Draft
import Bookmarklet.Preview.Session

/-!
# The workbench

A draft with all that it takes to work on it: the links built before, a preview, and an assistant.
-/

namespace Bookmarklet

/-- A draft among what its configuration provides. -/
structure Workbench (m : Type → Type) where
  config : Config
  draft : Draft
  cache : Link.Cache
  session : Preview.Session
  assistant : Assist.Assistant m

/-- Why the assistant was of no use. -/
inductive AssistanceError where
  | draft (error : DraftError)
  | assist (error : Assist.AssistError)
  deriving DecidableEq

/-- An error in words. -/
def AssistanceError.message : AssistanceError → String
  | draft error => error.message
  | assist error => error.message

namespace Workbench

variable {m : Type → Type}

/-- The workbench that a configuration describes, with an empty draft. -/
def start [Monad m] (config : Config) : Workbench m where
  config := config
  draft := .new ""
  cache := .empty Link.Cache.defaultCapacity
  session := .start config.log config.clearOnReload
  assistant := config.assistant

/-- Puts another assistant in place. -/
def withAssistant (w : Workbench m) (assistant : Assist.Assistant m) : Workbench m := { w with assistant }

/-- Builds the link of the draft through the cache. -/
def build (w : Workbench m) : Except DraftError (Workbench m) :=
  (w.draft.buildCached w.cache).map fun (draft, cache) => { w with draft, cache }

/-- Shows the page that runs the draft. -/
def preview (w : Workbench m) : Preview.Page × Workbench m :=
  let (page, session) := w.session.load w.draft.source
  (page, { w with session })

/-- What becomes of the workbench when the assistant has answered: code goes into the draft. -/
def take (w : Workbench m) : Response → Except DraftError (Workbench m)
  | .explanation _ => .ok w
  | response => (w.draft.accept response).map fun (_, draft) => { w with draft }

/-- Asks the assistant. -/
def assist [Monad m] (w : Workbench m) (request : Assist.Request) :
    m (Except AssistanceError Response × Workbench m) := do
  match ← w.assistant.answer request with
  | .error e => return (.error (.assist e), w)
  | .ok response =>
    match w.take response with
    | .error e => return (.error (.draft e), w)
    | .ok w => return (.ok response, w)

end Workbench
end Bookmarklet
