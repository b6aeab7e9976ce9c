import Bookmarklet.Script.Lexicon
import Bookmarklet.Script.Position
import Bookmarklet.Script.Grammar.Mode

/-!
# The longest token at a place

`Mode.scan` reads a text and finds the longest token among those of a mode. It follows all of them at once: a `Front`
holds what is left of the pattern of each token that still fits, and whether only blanks have been read, so that a
token may still start. A token that has been completed gives way to a longer one only if that one is as strong
(`Front.step`).
-/

namespace Bookmarklet.Script

/-- The tokens looked for together. -/
structure Mode where
  /-- Those that must start at once. -/
  immediate : List (Terminal × Pattern)
  /-- Those that blanks may precede. -/
  spaced : List (Terminal × Pattern)
  /-- Whether the end of the text is among them. -/
  endOfInput : Bool

namespace Mode

/-- The mode that looks for some terminals. -/
def ofTerminals (terminals : List Terminal) : Mode where
  immediate := (terminals.filter (·.isImmediate)).filterMap fun t => t.pattern?.map (t, ·)
  spaced := (terminals.filter (!·.isImmediate)).filterMap fun t => t.pattern?.map (t, ·)
  endOfInput := terminals.contains .endOfInput

/-- All modes; the first belongs to error recovery. -/
def all : List Mode := Grammar.modes.map ofTerminals

/-- The mode of a number. -/
def ofIndex (i : Nat) : Mode := all.getD i ⟨[], [], false⟩

end Mode

/-- What may still become a token. -/
structure Front where
  /-- Only blanks have been read. -/
  blank : Bool
  /-- The tokens that have started, with the rest of their patterns. -/
  live : List (Terminal × Pattern)

namespace Front

/-- The front before any character. -/
def start (mode : Mode) : Front := ⟨true, mode.immediate⟩

/-- Of two tokens, the preferred one. -/
def prefer (best : Option Terminal) (t : Terminal) : Option Terminal :=
  match best with
  | none => some t
  | some b => if b.outranks t then some b else some t

/-- The preferred token among those that are complete. -/
def complete? (front : Front) : Option Terminal :=
  (front.live.filter (·.2.nullable)).foldl (fun best t => prefer best t.1) none

/-- The tokens that go on with a character. -/
def follow (c : Char) (live : List (Terminal × Pattern)) : List (Terminal × Pattern) :=
  live.filterMap fun (t, p) => let q := p.derive c; if q.isFail then none else some (t, q)

/-- The front behind a character, or nothing if the token that is complete holds or no token fits. -/
def step (mode : Mode) (front : Front) (c : Char) : Option Front :=
  let live := follow c front.live ++ (if front.blank then follow c mode.spaced else [])
  let blank := front.blank && CharSet.separator.contains c && !mode.spaced.isEmpty
  if live.isEmpty && !blank then none
  else
    match front.complete? with
    | none => some ⟨blank, live⟩
    | some t =>
      let strength := live.foldl (fun s l => max s l.1.strength) (if blank then 0 else -1)
      if strength < t.strength then none
      else if strength = t.strength
          && (live.isEmpty || (front.blank && !mode.spaced.isEmpty && !live.any (·.1 == t))) then none
      else some ⟨blank, live⟩

end Front

/-- The outcome of looking for a token: the token, how many characters precede it, where it ends, and how many
characters were read before nothing could fit any more. -/
structure Scan where
  found : Option Terminal
  start : Nat
  stop : Nat
  reached : Nat

namespace Mode

/-- Reads on from a front; `best` is the last complete token and where it ends. -/
def scanFrom (mode : Mode) (offset start : Nat) (front : Front) (best : Option (Terminal × Nat)) :
    List Char → Scan
  | [] =>
    if mode.endOfInput && front.blank then ⟨some .endOfInput, start, offset, offset⟩
    else
      match (front.complete?.map (·, offset)).or best with
      | some (t, stop) => ⟨some t, start, stop, offset⟩
      | none => ⟨none, start, offset, offset⟩
  | c :: cs =>
    let best := (front.complete?.map (·, offset)).or best
    match front.step mode c with
    | some next => scanFrom mode (offset + 1) (if next.live.isEmpty then offset + 1 else start) next best cs
    | none =>
      match best with
      | some (t, stop) => ⟨some t, start, stop, offset⟩
      | none => ⟨none, start, offset, offset⟩

/-- The longest token of a mode at a cursor. A byte order mark at the start of the source is passed over. -/
def scan (mode : Mode) (cursor : Cursor) : Scan :=
  match cursor with
  | ⟨⟨0, _, _⟩, '\uFEFF' :: rest⟩ => mode.scanFrom 1 1 (.start mode) none rest
  | ⟨_, rest⟩ => mode.scanFrom 0 0 (.start mode) none rest

end Mode

/-- The keywords by their spelling. -/
def keywordTable : List (List Char × Terminal) :=
  Terminal.keywords.filterMap fun t => t.spelling?.map fun s => (s.toList, t)

/-- The keyword that a name spells. -/
def keyword? (name : List Char) : Option Terminal := keywordTable.lookup name

end Bookmarklet.Script
