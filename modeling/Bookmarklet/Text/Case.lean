/-!
# Letters in any case

Comparing texts with words written in small ASCII letters, where capitals and the signs that fold to a letter count as
that letter.
-/

namespace Bookmarklet.Text

/-- Whether a character is a form of a small letter: the letter, its capital, or a sign that folds to it. Characters
other than letters are a form of themselves. -/
def foldsTo (c d : Char) : Bool :=
  c == d.toLower || (c == 'k' && d == '\u212a') || (c == 's' && d == '\u017f')

/-- Whether a text starts with a word in any case; the word is written small. -/
def startsWithFolded : (word text : List Char) → Bool
  | [], _ => true
  | _ :: _, [] => false
  | c :: word, d :: text => foldsTo c d && startsWithFolded word text

/-- Whether a text contains a word in any case of ASCII; the word is written small. -/
def containsWord (word : List Char) : List Char → Bool
  | [] => word.isEmpty
  | c :: cs => word.isPrefixOf ((c :: cs).map Char.toLower) || containsWord word cs

end Bookmarklet.Text
