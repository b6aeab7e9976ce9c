import Bookmarklet.Script.Position
import Bookmarklet.Script.Terminal

/-!
# Tokens found by their surroundings

Some tokens are no matter of spelling: a line break may end a statement, `?` may start a conditional or `?.`, the
text of a template runs to the next substitution. `Context.scan` looks for the ones that the parse state allows.
Here a NUL counts as the end of the text, and only ASCII blanks count as blanks.
-/

namespace Bookmarklet.Script.Context

/-- Blanks as the search for these tokens sees them. -/
def isSpace (c : Char) : Bool := c == ' ' || ('\t' ≤ c && c ≤ '\r')

/-- Characters that end a line. -/
def isLineEnd (c : Char) : Bool := c == '\n' || c == '\u2028' || c == '\u2029'

/-- Whether a text starts with a character that satisfies a test. -/
def startsWith (test : Char → Bool) : List Char → Bool
  | [] => false
  | c :: _ => test c

/-- Whether a text is over. -/
def atEnd : List Char → Bool
  | [] => true
  | c :: _ => c == '\x00'

/-! ## Templates and markup -/

/-- How many characters of a template precede the next substitution, escape or closing quote; none if it is not
closed. -/
def templateLength : List Char → Option Nat
  | [] => none
  | '\x00' :: _ => none
  | '\x60' :: _ => some 0
  | '\\' :: _ => some 0
  | '$' :: '\x7b' :: _ => some 0
  | _ :: rest => (templateLength rest).map (· + 1)

/-- How many characters of markup precede the next tag, substitution or reference, and whether they are more than a
line break with its indentation. -/
def markupLength (offset : Nat) (solid afterBreak : Bool) : List Char → Nat × Bool
  | [] => (offset, solid)
  | c :: rest =>
    if c == '\x00' || c == '<' || c == '>' || c == '\x7b' || c == '\x7d' || c == '&' then (offset, solid)
    else if c == '\n' then markupLength (offset + 1) solid true rest
    else
      let afterBreak := afterBreak && isSpace c
      markupLength (offset + 1) (solid || !afterBreak) afterBreak rest

/-! ## Comments on the way to a terminator -/

/-- Where in blanks and comments a text is. -/
inductive Phase where
  | between | slash | line | block | blockStar

/-- How a run of blanks and comments ends: at something that is neither, at a division, or at a closed comment
without a line break. -/
inductive Stop where
  | clear | division | inlineComment
  deriving DecidableEq

/-- The end of a run of blanks and comments: how, whether a comment was closed, and what follows. -/
structure Passed where
  stop : Stop
  comment : Bool
  offset : Nat
  rest : List Char

/-- Passes over blanks and comments. Unless `through`, a closed block comment ends the run. -/
def pass (through : Bool) (phase : Phase) (lineBreak comment : Bool) (offset : Nat) : List Char → Passed
  | [] =>
    match phase with
    | .slash => ⟨.division, comment, offset, []⟩
    | .line => ⟨.clear, true, offset, []⟩
    | _ => ⟨.clear, comment, offset, []⟩
  | c :: rest =>
    match phase with
    | .between =>
      if isSpace c then pass through .between lineBreak comment (offset + 1) rest
      else if c == '/' then pass through .slash lineBreak comment (offset + 1) rest
      else ⟨.clear, comment, offset, c :: rest⟩
    | .slash =>
      if c == '/' then pass through .line lineBreak comment (offset + 1) rest
      else if c == '*' then pass through .block lineBreak comment (offset + 1) rest
      else ⟨.division, comment, offset, c :: rest⟩
    | .line =>
      if c == '\n' then pass through .between lineBreak true (offset + 1) rest
      else if c == '\x00' || isLineEnd c then ⟨.clear, true, offset, c :: rest⟩
      else pass through .line lineBreak comment (offset + 1) rest
    | .block =>
      if c == '\x00' then ⟨.clear, comment, offset, c :: rest⟩
      else if c == '*' then pass through .blockStar lineBreak comment (offset + 1) rest
      else pass through .block (lineBreak || isLineEnd c) comment (offset + 1) rest
    | .blockStar =>
      if c == '/' then
        if through || startsWith (· == '/') rest then pass through .between lineBreak true (offset + 1) rest
        else ⟨if lineBreak then .clear else .inlineComment, true, offset + 1, rest⟩
      else if c == '\x00' then ⟨.clear, comment, offset, c :: rest⟩
      else if c == '*' then pass through .blockStar lineBreak comment (offset + 1) rest
      else pass through .block (lineBreak || isLineEnd c) comment (offset + 1) rest

/-! ## The terminator that a line break implies -/

/-- The outcome of looking for an implied terminator, and how far the search went. -/
structure Terminator where
  implied : Bool
  comment : Bool
  offset : Nat
  rest : List Char

/-- Whether a line break before a text ends the statement: not if the text goes on with an operator or `in` or
`instanceof`. -/
def breaksBefore (comment : Bool) (offset : Nat) : List Char → Terminator
  | '.' :: rest => ⟨startsWith Char.isDigit rest, comment, offset + 1, rest⟩
  | '+' :: rest => ⟨startsWith (· == '+') rest, comment, offset + 1, rest⟩
  | '-' :: rest => ⟨startsWith (· == '-') rest, comment, offset + 1, rest⟩
  | '!' :: rest => ⟨!startsWith (· == '=') rest, comment, offset + 1, rest⟩
  | 'i' :: 'n' :: rest =>
    if !startsWith Char.isAlpha rest then ⟨false, comment, offset + 2, rest⟩
    else
      let more := "stanceof".toList
      if more.isPrefixOf rest && !startsWith Char.isAlpha (rest.drop more.length) then
        ⟨false, comment, offset + 2 + more.length, rest.drop more.length⟩
      else ⟨true, comment, offset, rest⟩
  | c :: rest =>
    ⟨!(['\x60', ',', ':', ';', '*', '%', '>', '<', '=', '[', '(', '?', '^', '|', '&', '/'].contains c), comment, offset,
      c :: rest⟩
  | [] => ⟨true, comment, offset, []⟩

/-- Looks for an implied terminator: the end of the text, a closing brace, or a line break where the statement cannot
go on. With `afterComment` a comment is enough too. -/
def terminator (afterComment : Bool) (comment : Bool) : Nat → Nat → List Char → Terminator
  | 0, offset, text => ⟨false, comment, offset, text⟩
  | fuel + 1, offset, text =>
    let passed : Passed :=
      if startsWith (· == '/') text then pass false .between false comment offset text
      else ⟨.inlineComment, comment, offset, text⟩
    let ⟨stop, comment, offset, rest⟩ := passed
    if atEnd text then ⟨true, comment, offset, rest⟩
    else if stop == .division then ⟨false, comment, offset, rest⟩
    else if stop == .clear && afterComment && !startsWith (fun c => c == ',' || c == '=') rest then
      ⟨true, comment, offset, rest⟩
    else
      match rest with
      | '\x7d' :: _ => ⟨true, comment, offset, rest⟩
      | c :: more =>
        if isLineEnd c then
          let after := pass true .between false comment (offset + 1) more
          if after.stop == .division then ⟨false, after.comment, after.offset, after.rest⟩
          else breaksBefore after.comment after.offset after.rest
        else if isSpace c then terminator afterComment comment fuel (offset + 1) more
        else ⟨false, comment, offset, rest⟩
      | [] => ⟨false, comment, offset, rest⟩

/-! ## Conditionals and comments of old pages -/

/-- A token between two places of a text. -/
structure Found where
  terminal : Terminal
  start : Nat
  stop : Nat

/-- The `?` of a conditional, behind blanks: not `??`, and not `?.` unless a digit follows. -/
def question (offset : Nat) : List Char → Option Found
  | '?' :: rest =>
    match rest with
    | '?' :: _ => none
    | '.' :: more => if startsWith Char.isDigit more then some ⟨.question, offset, offset + 1⟩ else none
    | _ => some ⟨.question, offset, offset + 1⟩
  | c :: rest => if isSpace c then question (offset + 1) rest else none
  | [] => none

/-- The end of a line. -/
def lineLength : List Char → Nat
  | [] => 0
  | c :: rest => if c == '\x00' || isLineEnd c then 0 else lineLength rest + 1

/-- A comment that starts with `<!--` or `-->`, behind blanks, to the end of its line. -/
def htmlComment (offset : Nat) : List Char → Option Found
  | '<' :: '!' :: '-' :: '-' :: rest => some ⟨.htmlComment, offset, offset + 4 + lineLength rest⟩
  | '-' :: '-' :: '>' :: rest => some ⟨.htmlComment, offset, offset + 3 + lineLength rest⟩
  | c :: rest => if isSpace c || isLineEnd c then htmlComment (offset + 1) rest else none
  | [] => none

/-! ## The search -/

/-- Looks for the tokens that a parse state allows. A state that allows both a terminator and the text of a template
is that of error recovery, where none of these tokens is looked for. The start of a source counts as a terminator,
unless it may be a comment. -/
def search (atStart : Bool) (allowed : List Terminal) (text : List Char) : Option Found :=
  let allows t := allowed.contains t
  let comment (offset : Nat) (rest : List Char) :=
    if allows .htmlComment && !allows .logicalOr && !allows .escapeSequence && !allows .regexPattern then
      htmlComment offset rest
    else none
  if allows .templateChars then
    if allows .automaticSemicolon then none
    else
      match templateLength text with
      | some (n + 1) => some ⟨.templateChars, 0, n + 1⟩
      | _ => none
  else if allows .jsxText then
    match markupLength 0 false false text with
    | (n, true) => some ⟨.jsxText, 0, n⟩
    | (n, false) => (comment n (text.drop n)).map fun f => if f.start = n then { f with start := 0 } else f
  else if allows .automaticSemicolon then
    let t := terminator (!allows .logicalOr) false (text.length + 1) 0 text
    if t.implied || (atStart && !startsWith (· == '/') text) then some ⟨.automaticSemicolon, 0, 0⟩
    else if !t.comment && allows .question && startsWith (· == '?') t.rest then question t.offset t.rest
    else none
  else if allows .question then question 0 text
  else comment 0 text

/-- Looks for the tokens that a parse state allows at a cursor. A byte order mark at the start of the source is
passed over. -/
def scan (allowed : List Terminal) (cursor : Cursor) : Option Found :=
  match cursor with
  | ⟨⟨0, _, _⟩, '\uFEFF' :: rest⟩ =>
    (search false allowed rest).map fun f => { f with start := f.start + 1, stop := f.stop + 1 }
  | ⟨p, rest⟩ => search (p.byte = 0) allowed rest

end Bookmarklet.Script.Context
