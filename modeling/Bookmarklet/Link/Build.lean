import Bookmarklet.Link.Component
import Bookmarklet.Script.Minify
import Bookmarklet.Screening.Issue

/-!
# Building links

A link carries the minified form of a script. A script that cannot be minified is carried with its blanks collapsed.
-/

namespace Bookmarklet

/-- A link for a script, with what is said of the script. -/
structure Link where
  bookmarklet : String
  warnings : List String
  deriving DecidableEq

namespace Link

/-- The form in which a link carries a script. -/
def packed (source : List Char) : List Char :=
  match Script.minify source with
  | .ok minified => minified
  | .error _ => Text.collapse source

/-- The link for a script. -/
def build (source : String) : Link where
  bookmarklet := String.ofList (ofScript (packed source.toList))
  warnings := Screening.messages source

/-- A link as it travels. -/
def toJson (l : Link) : Json := .object [("bookmarklet", .string l.bookmarklet), ("warnings", .ofStrings l.warnings)]

end Link
end Bookmarklet
