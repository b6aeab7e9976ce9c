import Bookmarklet.Json.Decode

/-!
# Requests

What an author asks for: new code, or the explanation of a script, with options for either.
-/

namespace Bookmarklet.Assist

/-- What is asked for. -/
inductive Intent where
  | generate | explain
  deriving DecidableEq

/-- The kind of code that is asked for. -/
inductive Category where
  | dom | seo | content | debug
  deriving DecidableEq

/-- How much an explanation tells. -/
inductive Tone where
  | concise | detailed
  deriving DecidableEq

/-- The intents by name. -/
def Intent.names : List (String × Intent) := [("generate", .generate), ("explain", .explain)]

/-- The name of an intent. -/
def Intent.name : Intent → String
  | generate => "generate"
  | explain => "explain"

/-- The categories by name. -/
def Category.names : List (String × Category) :=
  [("dom", .dom), ("seo", .seo), ("content", .content), ("debug", .debug)]

/-- The name of a category. -/
def Category.name : Category → String
  | dom => "dom"
  | seo => "seo"
  | content => "content"
  | debug => "debug"

/-- The tones by name. -/
def Tone.names : List (String × Tone) := [("concise", .concise), ("detailed", .detailed)]

/-- The name of a tone. -/
def Tone.name : Tone → String
  | concise => "concise"
  | detailed => "detailed"

/-- What may be said of a request. -/
structure Options where
  category : Option Category
  /-- How many characters the code may have. -/
  maxChars : Option Nat
  tone : Option Tone
  deriving DecidableEq

/-- Nothing said. -/
def Options.none : Options := ⟨.none, .none, .none⟩

/-- What an author asks for. -/
structure Request where
  intent : Intent
  prompt : String
  source : Option String
  options : Options
  deriving DecidableEq

namespace Request

/-- Asks for new code. -/
def generate (prompt : String) : Request := ⟨.generate, prompt, none, .none⟩

/-- Asks for the explanation of a script. -/
def explain (source : String) : Request := ⟨.explain, "", some source, .none⟩

/-- Limits the length of the code. -/
def withMaxChars (r : Request) (n : Nat) : Request := { r with options := { r.options with maxChars := some n } }

/-- Asks for a kind of code. -/
def withCategory (r : Request) (c : Category) : Request :=
  { r with options := { r.options with category := some c } }

/-- Asks for a tone. -/
def withTone (r : Request) (t : Tone) : Request := { r with options := { r.options with tone := some t } }

end Request

/-! ## JSON -/

namespace Options

/-- The members that are written of options, for what is said. -/
def members (o : Options) : List (String × Json) :=
  Json.optionalMember "category" (fun c => .string c.name) o.category
    ++ Json.optionalMember "maxChars" (fun n : Nat => .integer n) o.maxChars
    ++ Json.optionalMember "tone" (fun t => .string t.name) o.tone

/-- Options as they travel. -/
def toJson (o : Options) : Json := .object o.members

/-- Takes a field. -/
def set (name : String) (v : Json) (o : Options) : Json.Decoded Options :=
  match name with
  | "category" => return { o with category := ← v.asOptional (Json.asVariant Json.isNull Category.names) }
  | "maxChars" => return { o with maxChars := ← v.asOptional Json.asSize }
  | "tone" => return { o with tone := ← v.asOptional (Json.asVariant Json.isNull Tone.names) }
  | _ => return o

/-- Reads options. -/
def ofJson (v : Json) : Json.Decoded Options :=
  v.asRecord "struct GenerationOptions" ["category", "maxChars", "tone"] set .none

end Options

namespace Request

/-- The members of a request whose options are written as `options`. -/
def members (r : Request) (options : Json) : List (String × Json) :=
  [("intent", .string r.intent.name), ("prompt", .string r.prompt)] ++ Json.optionalMember "sourceCode" .string r.source
    ++ [("options", options)]

/-- A request as it travels. -/
def toJson (r : Request) : Json := .object (r.members r.options.toJson)

/-- A request whose intent need not be known. -/
structure Fields where
  intent : Option Intent
  prompt : String
  source : Option String
  options : Options

/-- Takes a field. -/
def Fields.set (name : String) (v : Json) (f : Fields) : Json.Decoded Fields :=
  match name with
  | "intent" => return { f with intent := some (← v.asVariant Json.isNull Intent.names) }
  | "prompt" => return { f with prompt := ← v.asString }
  | "sourceCode" => return { f with source := ← v.asOptional Json.asString }
  | "options" => return { f with options := ← Options.ofJson v }
  | _ => return f

/-- The error of a request without an intent. -/
def noIntent : Json → Json.DecodeError
  | .array _ => .wrongLength 0 "struct GenerationRequest with 4 elements"
  | _ => .missingField "intent"

/-- Reads a request. -/
def ofJson (v : Json) : Json.Decoded Request := do
  let names := ["intent", "prompt", "sourceCode", "options"]
  let f ← v.asRecord "struct GenerationRequest" names Fields.set ⟨none, "", none, .none⟩
  match f.intent with
  | some intent => return ⟨intent, f.prompt, f.source, f.options⟩
  | none => .error (noIntent v)

end Request
end Bookmarklet.Assist
