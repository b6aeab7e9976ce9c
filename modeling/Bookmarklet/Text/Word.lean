import Bookmarklet.Text.WordRanges

/-!
# Words

The characters that words are made of, and the edges between words and the rest of a text.
-/

namespace Bookmarklet.Text

/-- Whether a character belongs to words: letters, marks, digits and connectors of any script. -/
def isWord (c : Char) : Bool :=
  if c.toNat < 128 then c.isAlphanum || c == '_'
  else wordRanges.any fun (low, high) => low ≤ c.toNat && c.toNat ≤ high

/-- Whether a word begins or ends between two characters; `none` stands for either end of the text. -/
def isWordEdge (before after : Option Char) : Bool := before.any isWord != after.any isWord

end Bookmarklet.Text
