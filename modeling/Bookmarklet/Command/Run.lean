import Bookmarklet.Command.Arguments
import Bookmarklet.Command.Host
import Bookmarklet.Config
import Bookmarklet.Json.Printer
import Bookmarklet.Link.Build
import Bookmarklet.Preview.Document

/-!
# The command

`run` does what arguments ask for on a host, and tells what is printed and with which code the command ends: 0 where
all is well, 1 where a script has errors, an answer is a refusal or something fails, 2 where the arguments are wrong.
-/

namespace Bookmarklet.Command

/-- What comes of running the command. -/
structure Outcome where
  code : Nat
  output : String
  errors : String
  deriving DecidableEq

/-- The version of the program. -/
def version : String := "0.1.0"

/-! ## Failures -/

/-- A failure with its causes, each the cause of the one before it. -/
structure Failure where
  message : String
  causes : List String

namespace Failure

/-- A text whose lines but the first are indented. -/
def indent (blanks text : String) : String := ("\n" ++ blanks).intercalate (text.splitOn "\n")

/-- Several causes, numbered from a number on. -/
def numbered (n : Nat) : List String → String
  | [] => ""
  | cause :: rest => "\n" ++ "    " ++ toString n ++ ": " ++ indent "       " cause ++ numbered (n + 1) rest

/-- A failure with its causes as it is reported. -/
def report (f : Failure) : String :=
  "Error: " ++ f.message
    ++ (match f.causes with
      | [] => ""
      | [cause] => "\n\nCaused by:\n    " ++ indent "    " cause
      | causes => "\n\nCaused by:" ++ numbered 0 causes)
    ++ "\n"

/-- The end of the command that has failed. -/
def outcome (f : Failure) : Outcome := ⟨1, "", f.report⟩

end Failure

/-! ## Sources -/

/-- What is said of bytes that are no text. -/
def noText : String := "stream did not contain valid UTF-8"

/-- Whether a path stands for the input. -/
def isInput (path : String) : Bool :=
  match path.splitOn "/" with
  | "-" :: rest => rest.all fun part => part == "" || part == "."
  | _ => false

section Reading

variable {m : Type → Type} [Monad m] (host : Host m)

/-- The text of a file, or what is wrong with it. -/
def readText (path : String) : m (Except String String) := do
  match ← host.read path with
  | .error fault => return .error fault.message
  | .ok bytes =>
    match Text.decode bytes with
    | .ok text => return .ok (String.ofList text)
    | .error _ => return .error noText

/-- The text of a source. -/
def readSource (path : String) : m (Except Failure String) := do
  if isInput path then
    match Text.decode (← host.input) with
    | .ok text => return .ok (String.ofList text)
    | .error _ => return .error ⟨"reading stdin", [noText]⟩
  else
    match ← readText host path with
    | .ok text => return .ok text
    | .error cause => return .error ⟨"reading " ++ path, [cause]⟩

/-- The configuration, if it is in a file. -/
def loadConfig : Option String → m (Except Failure Config)
  | none => return .ok .default
  | some path => do
    match ← readText host path with
    | .error cause => return .error ⟨"loading config", ["cannot read config " ++ path ++ ": " ++ cause, cause]⟩
    | .ok text =>
      match Config.parse text with
      | .ok config => return .ok config
      | .error e => return .error ⟨"loading config", [e.message]⟩

end Reading

/-! ## Tasks -/

/-- A text on the left of which blanks are added up to a width. -/
def padLeft (width : Nat) (text : String) : String :=
  String.ofList (List.replicate (width - text.length) ' ') ++ text

/-- The line that lists an issue. -/
def issueLine (i : Screening.Issue) : String :=
  padLeft 7 i.level.name ++ " " ++ toString i.span.1 ++ ".." ++ toString i.span.2 ++ "  " ++ i.message ++ "\n"

/-- Lists issues. -/
def checkOutcome (json : Bool) (issues : List Screening.Issue) : Outcome where
  code := if Screening.hasErrors issues then 1 else 0
  output :=
    if json then (Json.array (issues.map (·.toJson))).pretty ++ "\n"
    else if issues.isEmpty then "No issues.\n"
    else "".intercalate (issues.map issueLine)
  errors := ""

/-- Builds the link for a script without errors. -/
def buildOutcome (json : Bool) (source : String) : Outcome :=
  match (Screening.issues source).filter (·.isError) with
  | first :: rest =>
    Failure.outcome ⟨toString (rest.length + 1) ++ " error(s); first: " ++ first.message, []⟩
  | [] =>
    let link := Link.build source
    if json then ⟨0, link.toJson.pretty ++ "\n", ""⟩
    else ⟨0, link.bookmarklet ++ "\n", "".intercalate (link.warnings.map fun w => "warning: " ++ w ++ "\n")⟩

/-- Prints a response. -/
def responseOutcome (r : Response) : Outcome := ⟨if r.isBlocked then 1 else 0, r.toJson.pretty ++ "\n", ""⟩

/-- The page, or the frame, that shows a script. -/
def previewText (frame : Bool) (source : String) : String :=
  let page := Preview.document source
  if frame then Preview.frame page else page

section Running

variable {m : Type → Type} [Monad m] (host : Host m)

/-- Does something with a source. -/
def withSource (path : String) (act : String → m Outcome) : m Outcome := do
  match ← readSource host path with
  | .error failure => return failure.outcome
  | .ok source => act source

/-- Prints a preview, or writes it to a file. -/
def deliver (out : Option String) (text : String) : m Outcome :=
  match out with
  | none => return ⟨0, text ++ "\n", ""⟩
  | some path => do
    match ← host.write path text with
    | .ok () => return ⟨0, "", ""⟩
    | .error fault => return Failure.outcome ⟨"writing " ++ path, [fault.message]⟩

/-- Asks the assistant, which may have another provider than is configured. -/
def ask (config : Config) (provider : Option Assist.ProviderKind) (limit : Option Nat) (request : Assist.Request) :
    m Outcome := do
  let config := { config with provider := provider.getD config.provider }
  let request := limit.elim request request.withMaxChars
  match ← config.assistant.answer request with
  | .ok response => return responseOutcome response
  | .error e => return Failure.outcome ⟨e.message, []⟩

/-- Does a task. -/
def perform (config : Config) : Task → m Outcome
  | .check file json => withSource host file fun source => return checkOutcome json (Screening.issues source)
  | .build file json => withSource host file fun source => return buildOutcome json source
  | .preview file out frame => withSource host file fun source => deliver host out (previewText frame source)
  | .guard file limit => withSource host file fun source => return responseOutcome (config.gate.check limit source)
  | .generate prompt provider limit => ask config provider limit (.generate prompt)
  | .explain file provider limit => withSource host file fun source => ask config provider limit (.explain source)

/-- What is printed where the arguments are wrong, or help is asked for. -/
def usage : String :=
  "Usage: marklet [--config <config>] [-v] [--log-json] <check|build|preview|guard|assist> ...\n"

/-- Runs the command with arguments. -/
def run (arguments : List String) : m Outcome :=
  match Invocation.ofArguments arguments with
  | .error .usage => return ⟨2, "", usage⟩
  | .error .help => return ⟨0, usage, ""⟩
  | .error .version => return ⟨0, "marklet " ++ version ++ "\n", ""⟩
  | .ok invocation => do
    match ← loadConfig host invocation.config with
    | .error failure => return failure.outcome
    | .ok config => perform host config invocation.task

end Running
end Bookmarklet.Command
