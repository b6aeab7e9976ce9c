import Bookmarklet.Assist.Reply
import Bookmarklet.Assist.Request
import Bookmarklet.Response
import Bookmarklet.Text.Case

/-!
# Providers

Those who answer requests: `mock` answers from stock, `completion` asks a service that completes prompts. A provider
may act in any monad.
-/

namespace Bookmarklet.Assist

/-- Why a request is not answered. -/
inductive AssistError where
  | emptyPrompt
  | missingSource
  /-- The service has failed. -/
  | backend (reason : String)
  | emptyCompletion
  deriving DecidableEq

/-- An error in words. -/
def AssistError.message : AssistError → String
  | emptyPrompt => "prompt is empty"
  | missingSource => "no source code to explain"
  | backend reason => "completion backend error: " ++ reason
  | emptyCompletion => "completion was empty"

/-- Someone who answers requests. -/
abbrev Provider (m : Type → Type) := Request → m (Except AssistError Response)

/-! ## Answers from stock -/

/-- Code that outlines the links of a page. -/
def outlineLinks : String := "\n".intercalate
  ["(() => \x7b",
   "  document.querySelectorAll('a').forEach(link => \x7b",
   "    link.style.outline = '2px solid #f97316'",
   "  \x7d)",
   "\x7d)()"]

/-- Code that lists the headings of a page. -/
def listHeadings : String := "\n".intercalate
  ["(() => \x7b",
   "  const headings = Array.from(document.querySelectorAll('h1,h2,h3'))",
   "    .map(h => h.textContent?.trim())",
   "    .filter(Boolean)",
   "  console.log(headings.join('\\n'))",
   "\x7d)()"]

/-- Code that outlines the images of a page. -/
def outlineImages : String := "\n".intercalate
  ["(() => \x7b",
   "  document.querySelectorAll('img').forEach(img => \x7b",
   "    img.style.outline = '2px solid #3b82f6'",
   "  \x7d)",
   "\x7d)()"]

/-- The code in stock that suits a prompt. -/
def pickSnippet (prompt : String) : String :=
  if Text.containsWord "heading".toList prompt.toList then listHeadings
  else if Text.containsWord "image".toList prompt.toList then outlineImages
  else outlineLinks

/-- Whether a text contains a piece. -/
def contains (piece : List Char) : List Char → Bool
  | [] => piece.isEmpty
  | c :: cs => piece.isPrefixOf (c :: cs) || contains piece cs

/-- What a script may do, by a piece of text that tells so. -/
def features : List (String × String) :=
  [("querySelectorAll", "Selects elements using querySelectorAll."),
   ("style.", "Applies inline styles to matched elements."),
   ("console.log", "Logs results to the console.")]

/-- What a script does, as far as its text tells. -/
def explainScript (source : String) : List String :=
  match features.filter fun (piece, _) => contains piece.toList source.toList with
  | [] => ["Runs a small DOM manipulation in the page context."]
  | found => found.map (·.2)

/-- Answers from stock. -/
def mock [Monad m] : Provider m := fun request =>
  return .ok <|
    match request.intent with
    | .generate => .code (pickSnippet request.prompt) []
    | .explain => .explanation (explainScript (request.source.getD ""))

/-! ## Answers from a service -/

/-- What a service is to complete. -/
structure Prompt where
  system : String
  user : String
  deriving DecidableEq

/-- The instructions for new code. -/
def generateInstructions : String :=
  "You write bookmarklets: one self-contained JavaScript snippet that runs in the current page. Reply with code only. "
    ++ "Never use eval, new Function, fetch or XMLHttpRequest, and do not read cookies or storage."

/-- The instructions for an explanation. -/
def explainInstructions : String :=
  "Explain what the given bookmarklet does as short bullet points, one per line."

/-- A category in words. -/
def Category.hint : Category → String
  | dom => "page structure and styling"
  | seo => "page metadata"
  | content => "page text and media"
  | debug => "debugging output in the console"

/-- The instructions that options add for new code. -/
def Options.instructions (o : Options) : String :=
  (match o.category with
    | some c => " Focus: " ++ c.hint ++ "."
    | .none => "")
  ++ match o.maxChars with
    | some n => " Keep it under " ++ toString n ++ " characters."
    | .none => ""

/-- A text without blanks at its ends. -/
def trimmed (s : String) : String := String.ofList (Text.trim s.toList)

/-- The prompt for a request. -/
def Request.toPrompt (r : Request) : Except AssistError Prompt :=
  match r.intent with
  | .generate =>
    let prompt := trimmed r.prompt
    if prompt.isEmpty then .error .emptyPrompt
    else .ok ⟨generateInstructions ++ r.options.instructions, prompt⟩
  | .explain =>
    let source := trimmed (r.source.getD "")
    if source.isEmpty then .error .missingSource
    else
      let length := if r.options.tone = some .detailed then " Cover each step." else " At most four points."
      .ok ⟨explainInstructions ++ length, source⟩

/-- The response that a reply makes. -/
def responseOfReply (intent : Intent) (reply : String) : Except AssistError Response :=
  match intent with
  | .generate =>
    match stripFences reply.toList with
    | [] => .error .emptyCompletion
    | code => .ok (.code (String.ofList code) [])
  | .explain =>
    match bulletLines reply.toList with
    | [] => .error .emptyCompletion
    | lines => .ok (.explanation (lines.map String.ofList))

/-- A service that completes prompts. -/
abbrev Backend (m : Type → Type) := Prompt → m (Except AssistError String)

/-- Answers from a service. -/
def completion [Monad m] (backend : Backend m) : Provider m := fun request =>
  match request.toPrompt with
  | .error e => return .error e
  | .ok prompt => do
    match ← backend prompt with
    | .error e => return .error e
    | .ok reply => return responseOfReply request.intent reply

end Bookmarklet.Assist
