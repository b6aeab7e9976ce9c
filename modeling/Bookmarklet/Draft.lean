import Bookmarklet.Link.Cache
import Bookmarklet.Response

/-!
# Drafts

A draft is a script on its way to a link. A link is built only from a script without errors, and a draft is ready
once it has a link and its warnings, if there are any, are acknowledged. Each change of the script drops both.
-/

namespace Bookmarklet

/-- A script that is being written. -/
structure Draft where
  source : String
  link : Option Link
  acknowledged : Bool
  deriving DecidableEq

/-- Why something cannot be done with a draft. -/
inductive DraftError where
  | hasErrors (count : Nat)
  | blocked (reason : String)
  | notCode
  | notGenerated
  | warningsNotAcknowledged
  deriving DecidableEq

/-- An error in words. -/
def DraftError.message : DraftError → String
  | hasErrors count => "source has " ++ toString count ++ " error(s); fix them before generating"
  | blocked reason => "generated output blocked: " ++ reason
  | notCode => "response contains no code"
  | notGenerated => "generate first"
  | warningsNotAcknowledged => "acknowledge warnings"

namespace Draft

/-- A draft of a script that nothing was done with. -/
def new (source : String) : Draft := ⟨source, none, false⟩

/-- Puts another script in place of the script; the same script changes nothing. -/
def setSource (d : Draft) (source : String) : Draft := if source = d.source then d else new source

/-- The issues of the script. -/
def issues (d : Draft) : List Screening.Issue := Screening.issues d.source

/-- The issues that are warnings. -/
def warnings (d : Draft) : List Screening.Issue := d.issues.filter (·.isWarning)

/-- The number of issues that are errors. -/
def errorCount (d : Draft) : Nat := d.issues.countP (·.isError)

/-- Builds the link. -/
def build (d : Draft) : Except DraftError Draft :=
  if 0 < d.errorCount then .error (.hasErrors d.errorCount)
  else .ok { d with link := some (Link.build d.source) }

/-- Builds the link through a cache. -/
def buildCached (d : Draft) (cache : Link.Cache) : Except DraftError (Draft × Link.Cache) :=
  if 0 < d.errorCount then .error (.hasErrors d.errorCount)
  else
    let (kept, cache) := cache.generate d.source
    .ok ({ d with link := some kept.link }, cache)

/-- Puts the code of a response in place of the script; its warnings are given back. -/
def accept (d : Draft) : Response → Except DraftError (List String × Draft)
  | .code script warnings => .ok (warnings, { d with source := script, link := none, acknowledged := false })
  | .blocked reason => .error (.blocked reason)
  | .explanation _ => .error .notCode

/-- Acknowledges the warnings. -/
def acknowledge (d : Draft) : Draft := { d with acknowledged := true }

/-- Checks that the draft may be saved. -/
def ready (d : Draft) : Except DraftError Unit :=
  if d.link.isNone then .error .notGenerated
  else if !d.acknowledged && !d.warnings.isEmpty then .error .warningsNotAcknowledged
  else .ok ()

end Draft
end Bookmarklet
