import Bookmarklet.Script.Pattern
import Bookmarklet.Script.Terminal

/-!
# The spelling of every token

`Terminal.pattern?` gives the texts of each token that a pattern describes. Most tokens may be preceded by blanks;
the inner parts of strings, templates and regular expressions may not (`Terminal.isImmediate`). Where two tokens fit
the same text, `Terminal.outranks` decides.
-/

namespace Bookmarklet.Script

namespace CharSet

/-- Any character but a line feed. -/
def anyOnLine : CharSet := except [(0x0A, 0x0A)]

/-- The digits `0` to `9`. -/
def digit : CharSet := only [(0x30, 0x39)]

/-- The digits of hexadecimal numbers. -/
def hexDigit : CharSet := only [(0x30, 0x39), (0x41, 0x46), (0x61, 0x66)]

/-- The letters `a` to `z` in both cases. -/
def letter : CharSet := only [(0x41, 0x5A), (0x61, 0x7A)]

/-- Blanks within a line and line feeds, as patterns inside tokens see them. -/
def space : CharSet := only [(0x09, 0x0D), (0x20, 0x20)]

/-- What may stand between two tokens. -/
def separator : CharSet :=
  only [(0x09, 0x0D), (0x20, 0x20), (0xA0, 0xA0), (0x1680, 0x1680), (0x2000, 0x200B), (0x2028, 0x2029),
    (0x202F, 0x202F), (0x205F, 0x2060), (0x3000, 0x3000), (0xFEFF, 0xFEFF)]

/-- The characters that end a name: controls, blanks and the marks that tokens are made of. -/
def nameBreaks : List (Nat × Nat) :=
  [(0x00, 0x23), (0x25, 0x2F), (0x3A, 0x40), (0x5B, 0x5E), (0x60, 0x60), (0x7B, 0x7E), (0xA0, 0xA0),
    (0x1680, 0x1680), (0x2000, 0x200B), (0x2028, 0x2029), (0x202F, 0x202F), (0x205F, 0x2060), (0x3000, 0x3000),
    (0xFEFF, 0xFEFF)]

/-- What a name may continue with. -/
def namePart : CharSet := except nameBreaks

/-- What a name may start with. -/
def nameStart : CharSet := except ((0x30, 0x39) :: nameBreaks)

end CharSet

namespace Pattern
open CharSet

/-- An escape for a character of a name. -/
def nameEscape : Pattern :=
  any [all [ofString "\\u", times (one hexDigit) 4], all [ofString "\\u\x7b", plus (one hexDigit), ofString "\x7d"]]

/-- A name. -/
def name : Pattern := seq (alt (one nameStart) nameEscape) (star (alt (one namePart) nameEscape))

/-- Digits, of which any two may be parted by an underscore. -/
def grouped (digit : CharSet) : Pattern := seq (one digit) (star (seq (optional (ofString "_")) (one digit)))

/-- A whole number of base ten with no superfluous zero but one. -/
def decimalInteger : Pattern :=
  alt (ofString "0") (all [optional (ofString "0"), one (only [(0x31, 0x39)]),
    optional (seq (optional (ofString "_")) (grouped digit))])

/-- A power of ten. -/
def exponent : Pattern := all [one (only [(0x45, 0x45), (0x65, 0x65)]), optional (one (only [(0x2B, 0x2B), (0x2D, 0x2D)])),
  grouped digit]

/-- A number of base ten. -/
def decimal : Pattern :=
  any [all [decimalInteger, ofString ".", optional (grouped digit), optional exponent],
    all [ofString ".", grouped digit, optional exponent], seq decimalInteger exponent, grouped digit]

/-- A number that starts with `0` and a letter for its base. -/
def based (lower upper : Nat) (digits : CharSet) : Pattern :=
  all [ofString "0", one (only [(lower, lower), (upper, upper)]), grouped digits]

/-- A number of base sixteen, two or eight. -/
def hexadecimal : Pattern := based 0x78 0x58 hexDigit
@[inherit_doc hexadecimal] def binary : Pattern := based 0x62 0x42 (only [(0x30, 0x31)])
@[inherit_doc hexadecimal] def octal : Pattern := based 0x6F 0x4F (only [(0x30, 0x37)])

/-- A number. -/
def number : Pattern :=
  any [hexadecimal, decimal, binary, octal, seq (any [hexadecimal, binary, octal, grouped digit]) (ofString "n")]

/-- A comment, to the end of its line or to its closing mark. -/
def comment : Pattern :=
  let notStar := star (one (except [(0x2A, 0x2A)]))
  alt (seq (ofString "//") (star (one (except [(0x0A, 0x0A), (0x0D, 0x0D), (0x2028, 0x2029)]))))
    (all [ofString "/*", notStar, plus (ofString "*"),
      star (all [one (except [(0x2A, 0x2A), (0x2F, 0x2F)]), notStar, plus (ofString "*")]), ofString "/"])

/-- A backslash and what it escapes in a string or template. -/
def escapeSequence : Pattern :=
  let octal := one (only [(0x30, 0x37)])
  seq (ofString "\\") (any [
    one (except [(0x30, 0x37), (0x75, 0x75), (0x78, 0x78)]),
    seq octal (upTo octal 2),
    seq (ofString "x") (times (one hexDigit) 2),
    seq (ofString "u") (times (one hexDigit) 4),
    all [ofString "u\x7b", plus (one hexDigit), ofString "\x7d"],
    seq (one (only [(0x0D, 0x0D), (0x3F, 0x3F)])) (one (only [(0x0A, 0x0A), (0x2028, 0x2029)]))])

/-- The inside of a regular expression. -/
def regexBody : Pattern :=
  let escaped := seq (ofString "\\") (one anyOnLine)
  plus (any [
    all [ofString "[", star (alt escaped (one (except [(0x0A, 0x0A), (0x5C, 0x5D)]))), ofString "]"],
    escaped,
    one (except [(0x0A, 0x0A), (0x2F, 0x2F), (0x5B, 0x5C)])])

/-- Text in a quoted attribute of markup, up to its quote or a character reference. -/
def attributeText (quote : Nat) : Pattern :=
  plus (alt (one (except [(0x26, 0x26), (quote, quote)]))
    (seq (ofString "&") (one (except [(0x23, 0x23), (0x41, 0x5A), (0x61, 0x7A)]))))

/-- A character reference in markup. -/
def characterReference : Pattern :=
  all [ofString "&",
    alt (seq (ofString "#") (alt (all [one (only [(0x58, 0x58), (0x78, 0x78)]), one hexDigit, upTo (one hexDigit) 5])
        (seq (one digit) (upTo (one digit) 4))))
      (seq (one letter) (upTo (one letter) 29)),
    ofString ";"]

/-- A name in markup with a dash in it. -/
def dashedName : Pattern :=
  all [one (only [(0x24, 0x24), (0x41, 0x5A), (0x5F, 0x5F), (0x61, 0x7A)]),
    star (one (only [(0x24, 0x24), (0x30, 0x39), (0x41, 0x5A), (0x5F, 0x5F), (0x61, 0x7A)])), ofString "-",
    star (one (only [(0x24, 0x24), (0x2D, 0x2D), (0x30, 0x39), (0x41, 0x5A), (0x5F, 0x5F), (0x61, 0x7A)]))]

end Pattern

namespace Terminal
open CharSet Pattern

/-- The texts of a token, where a pattern describes them. -/
def pattern? (t : Terminal) : Option Pattern :=
  match t with
  | identifier => some name
  | hashBangLine => some (seq (ofString "#!") (.star (one anyOnLine)))
  | htmlCharacterReference => some characterReference
  | jsxIdentifier => some dashedName
  | jsxDoubleFragment => some (attributeText 0x22)
  | jsxSingleFragment => some (attributeText 0x27)
  | doubleFragment => some (Pattern.plus (one (except [(0x0A, 0x0A), (0x0D, 0x0D), (0x22, 0x22), (0x5C, 0x5C)])))
  | singleFragment => some (Pattern.plus (one (except [(0x0A, 0x0A), (0x0D, 0x0D), (0x27, 0x27), (0x5C, 0x5C)])))
  | escapeSequence => some Pattern.escapeSequence
  | comment => some Pattern.comment
  | regexPattern => some regexBody
  | regexFlags => some (Pattern.plus (one (only [(0x61, 0x7A)])))
  | number => some Pattern.number
  | privatePropertyIdentifier => some (seq (ofString "#") name)
  | staticGet =>
    some (Pattern.all [ofString "static", Pattern.plus (one space), ofString "get", .star (one space), ofString "\n"])
  | question | automaticSemicolon | templateChars | htmlComment | jsxText => none
  | t => t.spelling?.map ofString

/-- Tokens that must start right behind the one before them. -/
def isImmediate : Terminal → Bool
  | jsxDoubleFragment | jsxSingleFragment | doubleFragment | singleFragment | escapeSequence | regexClose
  | regexPattern | regexFlags => true
  | _ => false

/-- How strongly a token holds on to a text that another token could extend. -/
def strength : Terminal → Int
  | jsxDoubleFragment | jsxSingleFragment | doubleFragment | singleFragment | regexClose => 1
  | regexPattern => -1
  | _ => 0

/-- A fixed spelling is more specific than a pattern, and an immediate token than one that blanks may precede. -/
def specificity (t : Terminal) : Nat :=
  (if t.spelling?.isSome then 2 else 0) + (if t.isImmediate then 1 else 0)

/-- Whether the first of two tokens that fit the same text is preferred. -/
def outranks (t u : Terminal) : Bool :=
  if t.strength = u.strength then
    if t.specificity = u.specificity then t.index < u.index else u.specificity < t.specificity
  else u.strength < t.strength

end Terminal
end Bookmarklet.Script
