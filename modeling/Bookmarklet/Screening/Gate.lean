import Bookmarklet.Response
import Bookmarklet.Screening.Issue

/-!
# The gate for generated code

Code that was not written by the author passes a gate before it is offered: it must not be too long, and must not
contain anything banned. What passes comes with the advice about it.
-/

namespace Bookmarklet.Screening

/-- How many characters code may have, unless told otherwise. -/
def defaultLimit : Nat := 4000

/-- Why banned code is refused. -/
def bannedReason : String := "Output contains a banned API."

/-- Why long code is refused. -/
def tooLongReason (length : Nat) : String := "Output too long (" ++ toString length ++ " chars)."

/-- Lets code of at most `limit` characters pass. -/
def screen (limit : Nat) (candidate : String) : Response :=
  if limit < candidate.toList.length then .blocked (tooLongReason candidate.toList.length)
  else if isBanned candidate.toList then .blocked bannedReason
  else .code candidate (warnings candidate)

/-- A gate with a limit of its own. -/
structure Gate where
  limit : Nat

/-- Lets code pass that keeps to a limit, or to that of the gate if there is none. -/
def Gate.check (g : Gate) (limit? : Option Nat) (candidate : String) : Response :=
  screen (limit?.getD g.limit) candidate

end Bookmarklet.Screening
