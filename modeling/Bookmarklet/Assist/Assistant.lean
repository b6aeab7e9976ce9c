import Bookmarklet.Assist.Provider
import Bookmarklet.Screening.Gate

/-!
# The assistant

The assistant asks a provider, if there is one, and lets the code of its answers pass only through the gate.
-/

namespace Bookmarklet.Assist

/-- Why requests are refused where there is no provider. -/
def disabledReason : String := "AI provider is disabled."

/-- The providers that can be configured. -/
inductive ProviderKind where
  | none | mock
  deriving DecidableEq

/-- The kinds of provider by name. -/
def ProviderKind.names : List (String × ProviderKind) := [("none", .none), ("mock", .mock)]

/-- The name of a kind of provider. -/
def ProviderKind.name : ProviderKind → String
  | none => "none"
  | mock => "mock"

/-- A provider behind a gate. -/
structure Assistant (m : Type → Type) where
  provider : Option (Provider m)
  gate : Screening.Gate

namespace Assistant

/-- The assistant with a configured kind of provider. -/
def ofKind [Monad m] (kind : ProviderKind) (gate : Screening.Gate) : Assistant m :=
  match kind with
  | .none => ⟨none, gate⟩
  | .mock => ⟨some Assist.mock, gate⟩

/-- Whether there is a provider. -/
def isEnabled (a : Assistant m) : Bool := a.provider.isSome

/-- What becomes of an answer at the gate. -/
def pass (gate : Screening.Gate) (request : Request) : Response → Response
  | .code code _ => gate.check request.options.maxChars code
  | response => response

/-- Answers a request. -/
def answer [Monad m] (a : Assistant m) (request : Request) : m (Except AssistError Response) :=
  match a.provider with
  | none => return .ok (.blocked disabledReason)
  | some provider => return (← provider request).map (pass a.gate request)

end Assistant
end Bookmarklet.Assist
