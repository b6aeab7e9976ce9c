import Bookmarklet.Assist.Assistant
import Bookmarklet.Preview.Console
import Bookmarklet.Toml.Reader

/-!
# Configuration

A configuration is written in TOML, in sections of one field each. Whatever is not written has its default; what is
not known is ignored. `Config.parse` reads a configuration, `Config.render` writes one.
-/

namespace Bookmarklet

/-- What can be configured. -/
structure Config where
  /-- How many characters generated code may have. -/
  maxChars : Nat
  /-- How many entries the console keeps. -/
  capacity : Nat
  provider : Assist.ProviderKind
  /-- Whether the console is cleared for each page. -/
  clearOnReload : Bool
  deriving DecidableEq

/-- The fields that must not be zero. -/
inductive Limit where
  | maxChars | capacity
  deriving DecidableEq

/-- A field with its section. -/
def Limit.name : Limit → String
  | maxChars => "guard.max_chars"
  | capacity => "console.capacity"

/-- Why there is no configuration, or no text for one. -/
inductive ConfigError where
  /-- The text is no TOML, or a field has a value of the wrong kind. -/
  | malformed
  | zero (field : Limit)
  /-- A number is greater than TOML can hold. -/
  | tooGreat
  deriving DecidableEq

/-- An error in words. -/
def ConfigError.message : ConfigError → String
  | malformed => "invalid config"
  | zero field => "invalid value for " ++ field.name ++ ": must be greater than zero"
  | tooGreat => "cannot serialize config"

namespace Config

/-- What holds unless it is configured. -/
def default : Config := ⟨Screening.defaultLimit, Preview.Log.defaultCapacity, .none, false⟩

/-- Checks that no limit is zero. -/
def validate (c : Config) : Except ConfigError Unit :=
  if c.maxChars = 0 then .error (.zero .maxChars)
  else if c.capacity = 0 then .error (.zero .capacity)
  else .ok ()

/-! ## Reading -/

/-- Decodes a size. -/
def size? : Toml.Value → Option Nat
  | .integer n => if 0 ≤ n then some n.toNat else none
  | _ => none

/-- Decodes a truth value. -/
def flag? : Toml.Value → Option Bool
  | .boolean b => some b
  | _ => none

/-- Whether a value holds nothing. -/
def isNothing : Toml.Value → Bool
  | .table _ [] | .array [] => true
  | _ => false

/-- Decodes a provider: a name, or a table with the name as its only key and nothing behind it. -/
def provider? : Toml.Value → Option Assist.ProviderKind
  | .string name => Assist.ProviderKind.names.lookup name
  | .table _ [(name, v)] => if isNothing v then Assist.ProviderKind.names.lookup name else none
  | _ => none

/-- Finds the only field of a section, which is a table or a list of its fields. A date or a time is an empty
section. -/
def field? (field : String) : Toml.Value → Option (Option Toml.Value)
  | .table _ members => some (members.lookup field)
  | .array items => some items.head?
  | .series earlier last => some (earlier ++ [Toml.Value.table .header last]).head?
  | .moment => some none
  | _ => none

/-- Decodes the field of a section. -/
def decodeField (decode : Toml.Value → Option α) (blank : α) (title field : String) (t : Toml.Table) : Option α :=
  match t.lookup title with
  | none => some blank
  | some v =>
    match field? field v with
    | none => none
    | some none => some blank
    | some (some v) => decode v

/-- Decodes a configuration. -/
def ofTable (t : Toml.Table) : Option Config := do
  return {
    maxChars := ← decodeField size? default.maxChars "guard" "max_chars" t
    capacity := ← decodeField size? default.capacity "console" "capacity" t
    provider := ← decodeField provider? default.provider "assist" "provider" t
    clearOnReload := ← decodeField flag? default.clearOnReload "preview" "clear_on_reload" t }

/-- Reads a configuration. -/
def parse (text : String) : Except ConfigError Config :=
  match (Toml.parse? text.toList).bind ofTable with
  | none => .error .malformed
  | some c => c.validate.map fun _ => c

/-! ## Writing -/

/-- The text of a configuration. -/
def text (c : Config) : String :=
  "[guard]\nmax_chars = " ++ toString c.maxChars
    ++ "\n\n[console]\ncapacity = " ++ toString c.capacity
    ++ "\n\n[assist]\nprovider = \"" ++ c.provider.name
    ++ "\"\n\n[preview]\nclear_on_reload = " ++ (if c.clearOnReload then "true" else "false") ++ "\n"

/-- Writes a configuration. -/
def render (c : Config) : Except ConfigError String :=
  if Toml.representable c.maxChars && Toml.representable c.capacity then .ok c.text else .error .tooGreat

/-! ## What is configured -/

/-- The gate with the configured limit. -/
def gate (c : Config) : Screening.Gate := ⟨c.maxChars⟩

/-- An empty log of the configured capacity. -/
def log (c : Config) : Preview.Log := .empty c.capacity

/-- The assistant with the configured provider. -/
def assistant [Monad m] (c : Config) : Assist.Assistant m := .ofKind c.provider c.gate

end Config
end Bookmarklet
