import Bookmarklet.Assist.Assistant
import Bookmarklet.Text.Digit

/-!
# Arguments of the command

`Invocation.ofArguments` says what arguments ask for. Parameters have long names behind two dashes, some a short name
behind one dash too. A value follows the name of its parameter as the next argument, or is attached to it.
-/

namespace Bookmarklet.Command

/-- Why arguments ask for nothing that can be done. -/
inductive Stop where
  | usage | help | version
  deriving DecidableEq

/-! ## Parameters -/

/-- What a parameter takes. -/
inductive Takes where
  /-- Nothing: it is given or not. -/
  | nothing
  /-- Nothing, and it may be given more than once. -/
  | nothingRepeatedly
  | value (accepts : String → Bool)
  /-- Nothing: it ends the reading of arguments. -/
  | stop (reason : Stop)

/-- A parameter with its names. -/
structure Parameter where
  long : String
  short : Option Char
  takes : Takes

/-- Whether a parameter takes a value. -/
def Parameter.takesValue (p : Parameter) : Bool :=
  match p.takes with
  | .value _ => true
  | _ => false

/-- Whether a text can be a path. -/
def isPath (text : String) : Bool := text != ""

/-- The size that a text spells. -/
def size? (text : String) : Option Nat :=
  let digits :=
    match text.toList with
    | '+' :: digits => digits
    | digits => digits
  if digits.isEmpty || !digits.all Char.isDigit then none
  else
    let n := Text.digitsValue 10 digits
    if n < 18446744073709551616 then some n else none

/-- The parameters that stand anywhere. -/
def commonParameters : List Parameter :=
  [⟨"config", none, .value isPath⟩, ⟨"verbose", some 'v', .nothingRepeatedly⟩, ⟨"log-json", none, .nothing⟩,
    ⟨"help", some 'h', .stop .help⟩]

/-! ## What is given -/

/-- The parameters that were given, with their values, and the argument that is no parameter. -/
structure Given where
  values : List (String × String)
  main : Option String

namespace Given

/-- Nothing. -/
def nothing : Given := ⟨[], none⟩

/-- The value of a parameter. -/
def value? (g : Given) (long : String) : Option String := g.values.lookup long

/-- Whether a parameter was given. -/
def has (g : Given) (long : String) : Bool := (g.value? long).isSome

/-- Notes that a parameter was given. -/
def add (g : Given) (p : Parameter) (value : String) : Except Stop Given :=
  let noted : Given := { g with values := (p.long, value) :: g.values }
  match p.takes with
  | .stop reason => .error reason
  | .nothingRepeatedly => .ok noted
  | .nothing => if g.has p.long then .error .usage else .ok noted
  | .value accepts => if g.has p.long || !accepts value then .error .usage else .ok noted

/-- Notes an argument that is no parameter. -/
def addMain (g : Given) (accepts : String → Bool) (value : String) : Except Stop Given :=
  if g.main.isSome || !accepts value then .error .usage else .ok { g with main := some value }

end Given

/-- Reads short names behind one dash; the last of them may be left waiting for a value. -/
def readShort (ps : List Parameter) (g : Given) : List Char → Except Stop (Given × Option Parameter)
  | [] => .ok (g, none)
  | c :: rest =>
    match ps.find? (·.short == some c) with
    | none => .error .usage
    | some p =>
      if p.takesValue then
        match rest with
        | [] => .ok (g, some p)
        | '=' :: value => return (← g.add p (String.ofList value), none)
        | value => return (← g.add p (String.ofList value), none)
      else do readShort ps (← g.add p "") rest

/-- Reads a long name behind two dashes; it may be left waiting for a value. -/
def readLong (ps : List Parameter) (g : Given) (text : List Char) : Except Stop (Given × Option Parameter) :=
  let name := String.ofList (text.takeWhile (· != '='))
  match ps.find? (·.long == name), text.dropWhile (· != '=') with
  | none, _ => .error .usage
  | some p, [] => if p.takesValue then .ok (g, some p) else return (← g.add p "", none)
  | some p, _ :: value => if p.takesValue then return (← g.add p (String.ofList value), none) else .error .usage

/-- Reads arguments up to the name of a command, if there are any, else to their end. -/
def readArguments (ps : List Parameter) (commands : List String) (accepts : String → Bool) :
    (waiting : Option Parameter) → Given → List String → Except Stop (Given × List String)
  | none, g, [] => .ok (g, [])
  | some _, _, [] => .error .usage
  | some p, g, arg :: rest =>
    if arg.startsWith "-" && arg != "-" then .error .usage
    else do readArguments ps commands accepts none (← g.add p arg) rest
  | none, g, arg :: rest =>
    if commands.contains arg then .ok (g, arg :: rest)
    else
      match arg.toList with
      | ['-', '-'] => return (← rest.foldlM (fun g arg => g.addMain accepts arg) g, [])
      | '-' :: '-' :: text => do
        let (g, waiting) ← readLong ps g text
        readArguments ps commands accepts waiting g rest
      | '-' :: c :: text => do
        let (g, waiting) ← readShort ps g (c :: text)
        readArguments ps commands accepts waiting g rest
      | _ => do readArguments ps commands accepts none (← g.addMain accepts arg) rest

/-! ## Commands -/

/-- What to do. -/
inductive Task where
  /-- List the issues of a script. -/
  | check (file : String) (json : Bool)
  /-- Build the link for a script. -/
  | build (file : String) (json : Bool)
  /-- Write the page, or the frame, that shows a script. -/
  | preview (file : String) (out : Option String) (frame : Bool)
  /-- Screen generated code. -/
  | guard (file : String) (limit : Option Nat)
  /-- Ask the assistant for new code. -/
  | generate (prompt : String) (provider : Option Assist.ProviderKind) (limit : Option Nat)
  /-- Ask the assistant to explain a script. -/
  | explain (file : String) (provider : Option Assist.ProviderKind) (limit : Option Nat)
  deriving DecidableEq

/-- What to do, and where the configuration is. -/
structure Invocation where
  config : Option String
  task : Task
  deriving DecidableEq

/-- Whether a text spells a size. -/
def isSize (text : String) : Bool := (size? text).isSome

/-- Whether a text names a provider. -/
def isProvider (text : String) : Bool := (Assist.ProviderKind.names.lookup text).isSome

/-- The parameters of a command, and what it accepts beside them. -/
def parametersOf : String → List Parameter × (String → Bool)
  | "check" | "build" => ([⟨"json", none, .nothing⟩], isPath)
  | "preview" => ([⟨"out", some 'o', .value isPath⟩, ⟨"iframe", none, .nothing⟩], isPath)
  | "guard" => ([⟨"max-chars", none, .value isSize⟩], isPath)
  | "assist" =>
    ([⟨"explain", none, .value isPath⟩, ⟨"provider", none, .value isProvider⟩,
      ⟨"max-chars", none, .value isSize⟩], fun _ => true)
  | _ => ([], fun _ => false)

/-- The names of the commands. -/
def commandNames : List String := ["check", "build", "preview", "guard", "assist"]

/-- What a command is to do. -/
def taskOf (name : String) (g : Given) : Option Task :=
  let limit := (g.value? "max-chars").bind size?
  let provider := (g.value? "provider").bind (List.lookup · Assist.ProviderKind.names)
  match name, g.main, g.value? "explain" with
  | "check", some file, _ => some (.check file (g.has "json"))
  | "build", some file, _ => some (.build file (g.has "json"))
  | "preview", some file, _ => some (.preview file (g.value? "out") (g.has "iframe"))
  | "guard", some file, _ => some (.guard file limit)
  | "assist", some prompt, none => some (.generate prompt provider limit)
  | "assist", none, some file => some (.explain file provider limit)
  | _, _, _ => none

/-- What arguments ask for. -/
def Invocation.ofArguments (arguments : List String) : Except Stop Invocation := do
  let version : Parameter := ⟨"version", some 'V', .stop .version⟩
  let (first, rest) ←
    readArguments (version :: commonParameters) ("help" :: commandNames) (fun _ => false) none .nothing arguments
  match rest with
  | [] => .error .usage
  | name :: rest =>
    if name = "help" then .error .help
    else
      let (own, accepts) := parametersOf name
      let (g, _) ← readArguments (own ++ commonParameters) [] accepts none .nothing rest
      match taskOf name g with
      | none => .error .usage
      | some task => return ⟨(g.value? "config").orElse fun _ => first.value? "config", task⟩

end Bookmarklet.Command
