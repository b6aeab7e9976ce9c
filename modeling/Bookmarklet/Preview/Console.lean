import Bookmarklet.Preview.Message

/-!
# The console of the host

A log of the last lines that previews have written. When it is full, each new entry displaces the oldest one.
-/

namespace Bookmarklet.Preview

/-- An entry of the log. -/
structure Entry where
  /-- Tells the entry from all others. -/
  id : Nat
  level : Level
  message : String
  deriving DecidableEq

/-- The line of an entry. -/
def Entry.line (e : Entry) : String := "[" ++ e.level.name ++ "] " ++ e.message

/-- The last entries, oldest first. -/
structure Log where
  /-- How many entries are kept, at least one. -/
  capacity : Nat
  entries : List Entry
  /-- The number of the next entry. -/
  nextId : Nat

namespace Log

/-- How many entries are kept, unless told otherwise. -/
def defaultCapacity : Nat := 200

/-- A log without entries. -/
def empty (capacity : Nat) : Log := ⟨max capacity 1, [], 0⟩

/-- Adds an entry; the one that it displaces is given back. -/
def append (log : Log) (entry : Entry) : Option Entry × Log :=
  if log.entries.length = log.capacity then
    (log.entries.head?, { log with entries := log.entries.drop 1 ++ [entry] })
  else (none, { log with entries := log.entries ++ [entry] })

/-- A new entry, numbered after all earlier ones. -/
def newEntry (log : Log) (level : Level) (message : String) : Entry × Log :=
  (⟨log.nextId, level, message⟩, { log with nextId := log.nextId + 1 })

/-- Adds a line; its entry is given back. -/
def push (log : Log) (level : Level) (message : String) : Entry × Log :=
  let (entry, log) := log.newEntry level message
  (entry, (log.append entry).2)

/-- The entries of a level, or all. -/
def filtered (log : Log) (level? : Option Level) : List Entry := log.entries.filter fun e => level?.all (· = e.level)

/-- The log without entries. -/
def clear (log : Log) : Log := { log with entries := [] }

/-- The lines of a level, or all. -/
def exportText (log : Log) (level? : Option Level) : String := "\n".intercalate ((log.filtered level?).map (·.line))

end Log
end Bookmarklet.Preview
