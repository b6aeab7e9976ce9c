import Bookmarklet.Text.Case
import Bookmarklet.Text.Replace

/-!
# Texts inside markup

`escapeScriptClose` keeps a script from ending the element that holds it, `escapeAttribute` lets a text stand in an
attribute.
-/

namespace Bookmarklet.Preview

/-- What ends a script element, in small letters. -/
def scriptClose : List Char := "</script".toList

/-- Whether a text starts with the end of a script element, in any case. -/
def closesScript (text : List Char) : Bool := Text.startsWithFolded scriptClose text

/-- A script with a backslash before the slash of every `</script`. -/
def escapeScriptClose : List Char → List Char
  | [] => []
  | c :: cs => if closesScript (c :: cs) then c :: '\\' :: escapeScriptClose cs else c :: escapeScriptClose cs

/-- What stands for a character in an attribute, in the order in which it is put in. All of it starts with an ampersand,
so ampersands come first. -/
def entities : List (Char × String) :=
  [('&', "&amp;"), ('<', "&lt;"), ('>', "&gt;"), ('"', "&quot;"), ('\'', "&#39;")]

/-- A text inside an attribute: each of the characters is replaced in the whole text, one after the other. -/
def escapeAttribute (text : List Char) : List Char :=
  entities.foldl (fun text (c, entity) => Text.replaceAll [c] entity.toList text) text

end Bookmarklet.Preview
