import Bookmarklet.Json.Decimal

/-!
# Reading typed data from JSON

Decoders for the shapes that data takes in JSON: texts, lists, names of variants, and records. A record is an object,
whose unknown members are ignored, or an array of its fields in order. `DecodeError` says what is wrong with a value
and what was expected.
-/

namespace Bookmarklet.Json

/-- What kind of value stands where another was expected. -/
inductive Unexpected where
  | null
  | boolean (value : Bool)
  | integer (value : Int)
  | floatingPoint (value : Decimal)
  | string (value : String)
  | sequence
  | map
  deriving DecidableEq

/-- Why a value does not have the expected shape. -/
inductive DecodeError where
  | wrongType (found : Unexpected) (expected : String)
  | wrongValue (found : Unexpected) (expected : String)
  | wrongLength (length : Nat) (expected : String)
  | unknownVariant (name : String) (known : List String)
  | missingField (name : String)
  deriving DecidableEq

/-- The kind of a value. -/
def kind : Json → Unexpected
  | null => .null
  | bool b => .boolean b
  | integer n => .integer n
  | decimal d => .floatingPoint d
  | string s => .string s
  | array _ => .sequence
  | object _ => .map

namespace Unexpected

/-- A character as it stands in a quotation. -/
def quotedChar (c : Char) : List Char :=
  match c with
  | '"' => ['\\', '"']
  | '\\' => ['\\', '\\']
  | '\n' => ['\\', 'n']
  | '\r' => ['\\', 'r']
  | '\t' => ['\\', 't']
  | '\x00' => ['\\', '0']
  | c => [c]

/-- A kind in words. -/
def text : Unexpected → String
  | null => "null"
  | boolean b => "boolean `" ++ (if b then "true" else "false") ++ "`"
  | integer n => "integer `" ++ toString n ++ "`"
  | floatingPoint d => "floating point `" ++ d.text ++ "`"
  | string s => "string \"" ++ String.ofList (s.toList.flatMap quotedChar) ++ "\""
  | sequence => "sequence"
  | map => "map"

end Unexpected

namespace DecodeError

/-- A name in quotes. -/
def quoted (name : String) : String := "`" ++ name ++ "`"

/-- The choice between names, in words. -/
def choice : List String → String
  | [a] => quoted a
  | [a, b] => quoted a ++ " or " ++ quoted b
  | names => "one of " ++ ", ".intercalate (names.map quoted)

/-- An error in words. -/
def message : DecodeError → String
  | wrongType found expected => "invalid type: " ++ found.text ++ ", expected " ++ expected
  | wrongValue found expected => "invalid value: " ++ found.text ++ ", expected " ++ expected
  | wrongLength length expected => "invalid length " ++ toString length ++ ", expected " ++ expected
  | unknownVariant name known => "unknown variant " ++ quoted name ++ ", expected " ++ choice known
  | missingField name => "missing field " ++ quoted name

end DecodeError

/-- The outcome of decoding. -/
abbrev Decoded := Except DecodeError

/-- A value of the wrong type. -/
def refuse (v : Json) (expected : String) : Decoded α := .error (.wrongType v.kind expected)

/-- Decodes a text. -/
def asString : Json → Decoded String
  | string s => .ok s
  | v => v.refuse "a string"

/-- Decodes a truth value. -/
def asBool : Json → Decoded Bool
  | bool b => .ok b
  | v => v.refuse "a boolean"

/-- Decodes a size. -/
def asSize : Json → Decoded Nat
  | integer n => if 0 ≤ n then .ok n.toNat else .error (.wrongValue (.integer n) "usize")
  | v => v.refuse "usize"

/-- Decodes a list of texts. -/
def asStrings : Json → Decoded (List String)
  | array items => items.mapM asString
  | v => v.refuse "a sequence"

/-- Decodes a value that may be absent. -/
def asOptional (decode : Json → Decoded α) : Json → Decoded (Option α)
  | null => .ok none
  | v => (decode v).map some

/-- Finds a variant by its name. -/
def variant (variants : List (String × α)) (name : String) : Decoded α :=
  match variants.lookup name with
  | some a => .ok a
  | none => .error (.unknownVariant name (variants.map (·.1)))

/-- Decodes one of several named variants, which stands alone or as the only member of an object, with a value that
holds nothing. -/
def asVariant (isNothing : Json → Bool) (variants : List (String × α)) : Json → Decoded α
  | string name => variant variants name
  | object [(name, v)] => do
    let a ← variant variants name
    if isNothing v then .ok a else v.refuse "unit"
  | object _ => .error (.wrongValue .map "map with a single key")
  | v => v.refuse "string or map"

/-- Whether a value is `null`. -/
def isNull : Json → Bool
  | null => true
  | _ => false

/-- Decodes a record: `set` takes a field by its name, `names` are the fields in order. -/
def asRecord (title : String) (names : List String) (set : String → Json → ρ → Decoded ρ) (blank : ρ) :
    Json → Decoded ρ
  | object members => members.foldlM (fun r (name, v) => set name v r) blank
  | array items => do
    let r ← (names.zip items).foldlM (fun r (name, v) => set name v r) blank
    if names.length < items.length then .error (.wrongLength items.length "fewer elements in array") else .ok r
  | v => v.refuse title

end Bookmarklet.Json
