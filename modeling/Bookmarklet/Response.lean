import Bookmarklet.Json.Decode

/-!
# Responses

The answer to a request, or to the screening of a text: code with advice, an explanation, or a refusal.

A response travels as a flat record, of which it fills one of three groups of fields. A record that fills fields of
more than one group is refused (`Response.ofRecord`).
-/

namespace Bookmarklet

/-- An answer for the author. -/
inductive Response where
  /-- Code with the warnings that concern it. -/
  | code (script : String) (warnings : List String)
  | explanation (lines : List String)
  | blocked (reason : String)
  deriving DecidableEq

namespace Response

/-- Whether a response is a refusal. -/
def isBlocked : Response → Bool
  | blocked _ => true
  | _ => false

/-- The code of a response. -/
def code? : Response → Option String
  | code script _ => some script
  | _ => none

/-- The warnings of a response. -/
def warnings : Response → List String
  | code _ warnings => warnings
  | _ => []

/-- The explanation of a response. -/
def explanation? : Response → Option (List String)
  | explanation lines => some lines
  | _ => none

/-- The reason of a refusal. -/
def reason? : Response → Option String
  | blocked reason => some reason
  | _ => none

/-! ## The flat record -/

/-- The fields in which a response travels. -/
structure Record where
  code : Option String
  warnings : Option (List String)
  explanation : Option (List String)
  blocked : Bool
  reason : Option String
  deriving DecidableEq

/-- A record without any field. -/
def Record.blank : Record := ⟨none, none, none, false, none⟩

/-- Why a record is no response. -/
inductive ShapeError where
  | blockedWithPayload
  | missingReason
  | unexpectedReason
  | ambiguousPayload
  | empty
  deriving DecidableEq

/-- An error in words. -/
def ShapeError.message : ShapeError → String
  | blockedWithPayload => "blocked response must not carry code or explanation"
  | missingReason => "blocked response is missing blockReason"
  | unexpectedReason => "blockReason given without blocked flag"
  | ambiguousPayload => "response carries both code and explanation"
  | empty => "response carries no code, explanation or block"

/-- The record of a response. -/
def toRecord : Response → Record
  | code script warnings => { Record.blank with code := some script, warnings := some warnings }
  | explanation lines => { Record.blank with explanation := some lines }
  | blocked reason => { Record.blank with blocked := true, reason := some reason }

/-- The response of a record. -/
def ofRecord (r : Record) : Except ShapeError Response :=
  if r.blocked then
    if r.code.isSome || r.explanation.isSome || r.warnings.isSome then .error .blockedWithPayload
    else
      match r.reason with
      | some reason => .ok (.blocked reason)
      | none => .error .missingReason
  else if r.reason.isSome then .error .unexpectedReason
  else
    match r.code, r.explanation with
    | some _, some _ => .error .ambiguousPayload
    | some script, none => .ok (.code script (r.warnings.getD []))
    | none, some lines => .ok (.explanation lines)
    | none, none => .error .empty

/-! ## JSON -/

/-- The names of the fields, in order. -/
def Record.names : List String := ["code", "warnings", "explanation", "blocked", "blockReason"]

/-- Takes a field. -/
def Record.set (name : String) (v : Json) (r : Record) : Json.Decoded Record :=
  match name with
  | "code" => return { r with code := ← v.asOptional Json.asString }
  | "warnings" => return { r with warnings := ← v.asOptional Json.asStrings }
  | "explanation" => return { r with explanation := ← v.asOptional Json.asStrings }
  | "blocked" => return { r with blocked := ← v.asBool }
  | "blockReason" => return { r with reason := ← v.asOptional Json.asString }
  | _ => return r

/-- Decodes a record. -/
def Record.ofJson (v : Json) : Json.Decoded Record :=
  v.asRecord "struct WireResponse" Record.names Record.set Record.blank

/-- The members that are written of a record, for the fields that are present. -/
def Record.members (r : Record) : List (String × Json) :=
  Json.optionalMember "code" .string r.code ++ Json.optionalMember "warnings" .ofStrings r.warnings
    ++ Json.optionalMember "explanation" .ofStrings r.explanation
    ++ (if r.blocked then [("blocked", .bool true)] else [])
    ++ Json.optionalMember "blockReason" .string r.reason

/-- A record as it travels. -/
def Record.toJson (r : Record) : Json := .object r.members

/-- Why a value is no response. -/
inductive WireError where
  | fields (error : Json.DecodeError)
  | shape (error : ShapeError)
  deriving DecidableEq

/-- An error in words. -/
def WireError.message : WireError → String
  | fields error => error.message
  | shape error => error.message

/-- A response as it travels. -/
def toJson (r : Response) : Json := r.toRecord.toJson

/-- Reads a response. -/
def ofJson (v : Json) : Except WireError Response :=
  match Record.ofJson v with
  | .error e => .error (.fields e)
  | .ok r =>
    match ofRecord r with
    | .error e => .error (.shape e)
    | .ok response => .ok response

end Response
end Bookmarklet
