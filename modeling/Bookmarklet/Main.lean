import Bookmarklet.Command.Run

/-!
# The program

The command on the system that runs it.
-/

namespace Bookmarklet

open Command

/-- The fault that an error of the system stands for. -/
def faultOf : IO.Error → Fault
  | .noFileOrDirectory _ number details | .inappropriateType _ number details | .permissionDenied _ number details
  | .alreadyExists _ number details | .invalidArgument _ number details | .resourceExhausted _ number details =>
    ⟨details, number.toNat⟩
  | e => ⟨toString e, 5⟩

/-- Reads bytes to their end. -/
def readToEnd (stream : IO.FS.Stream) : (fuel : Nat) → ByteArray → IO ByteArray
  | 0, bytes => return bytes
  | fuel + 1, bytes => do
    let chunk ← stream.read 65536
    if chunk.isEmpty then return bytes else readToEnd stream fuel (bytes ++ chunk)

/-- The system that runs the program. -/
def systemHost : Host IO where
  input := return (← readToEnd (← IO.getStdin) 65536 .empty).toList
  read path := do
    try return .ok (← IO.FS.readBinFile path).toList
    catch e => return .error (faultOf e)
  write path text := do
    try
      IO.FS.writeFile path text
      return .ok ()
    catch e => return .error (faultOf e)

end Bookmarklet

/-- Runs the command with the arguments of the program. -/
def main (arguments : List String) : IO UInt32 := do
  let outcome ← Bookmarklet.Command.run Bookmarklet.systemHost arguments
  (← IO.getStdout).putStr outcome.output
  (← IO.getStderr).putStr outcome.errors
  return UInt32.ofNat outcome.code
