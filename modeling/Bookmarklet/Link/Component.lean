import Bookmarklet.Text.Digit
import Bookmarklet.Text.Utf8

/-!
# Texts inside links

Letters, digits and some punctuation stand for themselves in a link, every other byte of the UTF-8 form as `%` and two
hexadecimal digits. `Component.decode` also reads digits in small letters, and leaves a `%` without digits as it is.
-/

namespace Bookmarklet.Link

/-- A link whose text cannot be recovered. -/
inductive DecodeError where
  /-- The link does not start with the scheme. -/
  | missingScheme
  /-- The bytes are not text. -/
  | invalidUtf8 (error : Text.Utf8Error)
  deriving DecidableEq

/-- An error in words. -/
def DecodeError.message : DecodeError → String
  | missingScheme => "link does not start with 'javascript:'"
  | invalidUtf8 error => "payload is not valid UTF-8: " ++ error.message

namespace Component

/-- Characters that stand for themselves. -/
def isUnreserved (c : Char) : Bool :=
  c.isAlphanum || ['-', '_', '.', '!', '~', '*', '\'', '(', ')'].contains c

/-- A byte as `%` and two digits in capitals. -/
def escape (b : UInt8) : List Char := ['%', Text.hexDigit 'A' (b.toNat / 16), Text.hexDigit 'A' (b.toNat % 16)]

/-- A character inside a link. -/
def encodeChar (c : Char) : List Char :=
  if isUnreserved c then [c] else (String.utf8EncodeChar c).flatMap escape

/-- A text inside a link. -/
def encode (text : List Char) : List Char := text.flatMap encodeChar

/-- The byte that two hexadecimal digits stand for. -/
def byte? (high low : Char) : Option UInt8 := do
  return UInt8.ofNat (16 * (← Text.hexValue? high) + (← Text.hexValue? low))

/-- The bytes that a text inside a link stands for. -/
def bytes : List Char → List UInt8
  | '%' :: high :: low :: rest =>
    match byte? high low with
    | some b => b :: bytes rest
    | none => String.utf8EncodeChar '%' ++ bytes (high :: low :: rest)
  | c :: rest => String.utf8EncodeChar c ++ bytes rest
  | [] => []

/-- The text that a text inside a link stands for. -/
def decode (text : List Char) : Except DecodeError (List Char) :=
  match Text.decode (bytes text) with
  | .ok decoded => .ok decoded
  | .error e => .error (.invalidUtf8 e)

end Component

/-! ## Links -/

/-- The scheme of every link. -/
def scheme : String := "javascript:"

/-- The link that carries a script. -/
def ofScript (script : List Char) : List Char := scheme.toList ++ Component.encode script

/-- The script that a link carries. -/
def script (link : List Char) : Except DecodeError (List Char) :=
  if scheme.toList.isPrefixOf link then Component.decode (link.drop scheme.toList.length) else .error .missingScheme

end Bookmarklet.Link
