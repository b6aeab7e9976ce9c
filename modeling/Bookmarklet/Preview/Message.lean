import Bookmarklet.Json.Decode
import Bookmarklet.Preview.Template

/-!
# Messages of a preview

A preview page posts what its script writes to the console: an object with a tag, a level and a text. Anything else
that a page posts is refused (`Event.ofJson`).
-/

namespace Bookmarklet.Preview

/-- How grave a line of the console is. -/
inductive Level where
  | log | info | warn | error
  deriving DecidableEq

namespace Level

/-- The levels, in order. -/
def all : List Level := [log, info, warn, error]

/-- The name of a level. -/
def name : Level → String
  | log => "log"
  | info => "info"
  | warn => "warn"
  | error => "error"

/-- The level with a name. -/
def ofName? (name : String) : Option Level := all.find? (·.name == name)

end Level

/-- Why a message or a level is refused. -/
inductive MessageError where
  | malformed (error : Json.DecodeError)
  | unknownLevel (name : String)
  deriving DecidableEq

/-- An error in words. -/
def MessageError.message : MessageError → String
  | malformed error => "malformed preview message: " ++ error.message
  | unknownLevel name => "unknown console level: " ++ name

/-- The level with a name. -/
def Level.ofName (name : String) : Except MessageError Level :=
  match ofName? name with
  | some level => .ok level
  | none => .error (.unknownLevel name)

/-- A line that a script has written to the console. -/
structure Event where
  level : Level
  payload : String
  deriving DecidableEq

namespace Event

/-- The event as a page posts it. -/
def toJson (e : Event) : Json :=
  .object [("level", .string e.level.name), ("payload", .string e.payload), ("type", .string channel)]

/-! ## Reading messages -/

/-- Whether a value holds nothing: `null`, or an object without members. -/
def isNothing : Json → Bool
  | .null | .object [] => true
  | _ => false

/-- Decodes a level. -/
def levelOfJson (v : Json) : Json.Decoded Level := v.asVariant isNothing (Level.all.map fun l => (l.name, l))

/-- The fields of a message, as far as they are known. -/
structure Fields where
  level : Option Level
  payload : Option String

/-- Takes a field. -/
def Fields.set (name : String) (v : Json) (f : Fields) : Json.Decoded Fields :=
  match name with
  | "level" => return { f with level := some (← levelOfJson v) }
  | "payload" => return { f with payload := some (← v.asString) }
  | _ => return f

/-- Checks the tag of a message. -/
def checkTag : Json → Json.Decoded Unit
  | .string name => Json.variant [(channel, ())] name
  | v => v.refuse "variant identifier"

/-- The event of an object whose tag is right. -/
def ofMembers (members : List (String × Json)) : Json.Decoded Event := do
  let fields ← members.foldlM (fun f (name, v) => Fields.set name v f) ⟨none, none⟩
  match fields.level, fields.payload with
  | none, _ => .error (.missingField "level")
  | some _, none => .error (.missingField "payload")
  | some level, some payload => .ok ⟨level, payload⟩

/-- How many items a message has that is an array, when too few follow its tag. -/
def itemsExpected : String := "struct variant SandboxMessage::Console with 2 elements"

/-- The event of an array whose tag is right. -/
def ofItems : List Json → Json.Decoded Event
  | [] => .error (.wrongLength 0 itemsExpected)
  | level :: rest => do
    let level ← levelOfJson level
    match rest with
    | [] => .error (.wrongLength 1 itemsExpected)
    | payload :: more =>
      let payload ← payload.asString
      if more.isEmpty then .ok ⟨level, payload⟩
      else .error (.wrongLength (2 + more.length) "2 elements in sequence")

/-- Reads what a page has posted. -/
def decode : Json → Json.Decoded Event
  | .object members => do
    match members.lookup "type" with
    | none => .error (.missingField "type")
    | some tag =>
      checkTag tag
      ofMembers (members.filter (·.1 != "type"))
  | .array [] => .error (.missingField "type")
  | .array (tag :: items) => do
    checkTag tag
    ofItems items
  | v => v.refuse "internally tagged enum SandboxMessage"

/-- Reads what a page has posted. -/
def ofJson (v : Json) : Except MessageError Event :=
  match decode v with
  | .ok event => .ok event
  | .error e => .error (.malformed e)

end Event
end Bookmarklet.Preview
