import Bookmarklet.Json.Value
import Bookmarklet.Screening.Catalogue
import Bookmarklet.Script.Check

/-!
# Issues of a script

`issues` lists what is wrong with a script: that it is blank, or its syntax error, then each occurrence of each risk.
Errors prevent that a link is built, warnings do not.
-/

namespace Bookmarklet.Screening

/-- How grave an issue is. -/
inductive Level where
  | warning | error
  deriving DecidableEq

/-- The name of a level. -/
def Level.name : Level → String
  | warning => "warning"
  | error => "error"

/-- Something that is wrong with a script; `index` and `length` count bytes. -/
structure Issue where
  message : String
  index : Nat
  length : Nat
  level : Level
  deriving DecidableEq

namespace Issue

/-- An error that concerns the whole script. -/
def ofError (message : String) : Issue := ⟨message, 0, 1, .error⟩

/-- A risk that was found. -/
def ofOccurrence (risk : Risk) (o : Occurrence) : Issue := ⟨risk.advice, o.index, max o.length 1, .warning⟩

/-- Whether an issue prevents that a link is built. -/
def isError (i : Issue) : Bool := i.level = .error

/-- Whether an issue is advice. -/
def isWarning (i : Issue) : Bool := i.level = .warning

/-- The bytes that an issue concerns: the first, and the one behind the last. -/
def span (i : Issue) : Nat × Nat := (i.index, i.index + i.length)

/-- An issue as it travels. -/
def toJson (i : Issue) : Json :=
  .object [("message", .string i.message), ("index", .integer i.index), ("length", .integer i.length),
    ("level", .string i.level.name)]

end Issue

/-- What is said of a script that is blank. -/
def blankMessage : String := "Source is empty."

/-- The occurrences of risks in a script. -/
def riskIssues (source : List Char) : List Issue :=
  risks.flatMap fun risk => (risk.signature.occurrences source).map (.ofOccurrence risk)

/-- The syntax error of a script. -/
def syntaxIssues (source : List Char) : List Issue :=
  match Script.check source with
  | .ok _ => []
  | .error e => [.ofError ("Syntax error: " ++ e.message)]

/-- The issues of a script. -/
def issues (source : String) : List Issue :=
  let text := source.toList
  if (Text.trim text).isEmpty then [.ofError blankMessage] else syntaxIssues text ++ riskIssues text

/-- What is said of a script. -/
def messages (source : String) : List String := (issues source).map (·.message)

/-- The advice about a script. -/
def warnings (source : String) : List String := ((issues source).filter (·.isWarning)).map (·.message)

/-- Whether some issues prevent that a link is built. -/
def hasErrors (issues : List Issue) : Bool := issues.any (·.isError)

end Bookmarklet.Screening
