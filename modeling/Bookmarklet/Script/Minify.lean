import Bookmarklet.Script.Check
import Bookmarklet.Script.Minify.Emit

/-!
# Minifying a script

`minify` writes an accepted script with as few characters between its tokens as it needs, without comments, and with
shorter names for the locals of simple functions.
-/

namespace Bookmarklet.Script

/-- Why a script is not minified. -/
inductive MinifyError where
  /-- The script is refused. -/
  | refused (error : SyntaxError)
  /-- The script has no token but comments. -/
  | empty
  deriving DecidableEq

/-- A failure in words. -/
def MinifyError.message : MinifyError → String
  | refused error => "cannot minify: " ++ error.message
  | empty => "minifier produced no output"

/-- A script in minified form. -/
def minify (source : List Char) : Except MinifyError (List Char) :=
  match check source with
  | .error error => .error (.refused error)
  | .ok tree =>
    match tree.emit tree.plan with
    | [] => .error .empty
    | output => .ok output

end Bookmarklet.Script
