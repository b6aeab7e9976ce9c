/-!
# Text as bytes

The UTF-8 form of texts. `decode` reads it strictly: overlong forms, surrogates and values above the last character
are refused, and the error tells how many bytes were well-formed and what is wrong with the next ones.
-/

namespace Bookmarklet.Text

/-- How many bytes a text has. -/
def byteLength : List Char → Nat
  | [] => 0
  | c :: rest => c.utf8Size + byteLength rest

/-- The bytes of a text. -/
def encode (text : List Char) : List UInt8 := text.flatMap String.utf8EncodeChar

/-- Why bytes are not text: the length of the well-formed part, and what follows it. -/
inductive Utf8Error where
  /-- So many bytes cannot start any character. -/
  | invalid (index length : Nat)
  /-- The bytes end inside a character. -/
  | incomplete (index : Nat)
  deriving DecidableEq

/-- An error in words. -/
def Utf8Error.message : Utf8Error → String
  | invalid index length =>
    "invalid utf-8 sequence of " ++ toString length ++ " bytes from index " ++ toString index
  | incomplete index => "incomplete utf-8 byte sequence from index " ++ toString index

/-- What a first byte announces: how many bytes follow, its own share of the value, and the range of the second. -/
structure Lead where
  more : Nat
  share : Nat
  low : Nat
  high : Nat

/-- What a first byte announces, if it can start a character. -/
def lead? (b : UInt8) : Option Lead :=
  let n := b.toNat
  if n < 0x80 then some ⟨0, n, 0, 0⟩
  else if n < 0xc2 then none
  else if n < 0xe0 then some ⟨1, n - 0xc0, 0x80, 0xbf⟩
  else if n = 0xe0 then some ⟨2, 0, 0xa0, 0xbf⟩
  else if n = 0xed then some ⟨2, 0xd, 0x80, 0x9f⟩
  else if n < 0xf0 then some ⟨2, n - 0xe0, 0x80, 0xbf⟩
  else if n = 0xf0 then some ⟨3, 0, 0x90, 0xbf⟩
  else if n < 0xf4 then some ⟨3, n - 0xf0, 0x80, 0xbf⟩
  else if n = 0xf4 then some ⟨3, 4, 0x80, 0x8f⟩
  else none

/-- The share of a byte that continues a character, if it lies in a range. -/
def tail? (low high : Nat) (b : UInt8) : Option Nat :=
  if low ≤ b.toNat && b.toNat ≤ high then some (b.toNat % 64) else none

/-- Puts a character before what follows it. -/
def consChar (value : Nat) (rest : Except Utf8Error (List Char)) : Except Utf8Error (List Char) :=
  rest.map (Char.ofNat value :: ·)

/-- Reads bytes from an index on. -/
def decodeFrom (index : Nat) : List UInt8 → Except Utf8Error (List Char)
  | [] => .ok []
  | b :: bs =>
    match lead? b with
    | none => .error (.invalid index 1)
    | some ⟨0, share, _, _⟩ => consChar share (decodeFrom (index + 1) bs)
    | some ⟨more, share, low, high⟩ =>
      match bs with
      | [] => .error (.incomplete index)
      | c :: cs =>
        match tail? low high c with
        | none => .error (.invalid index 1)
        | some second =>
          let share := share * 64 + second
          if more = 1 then consChar share (decodeFrom (index + 2) cs)
          else
            match cs with
            | [] => .error (.incomplete index)
            | d :: ds =>
              match tail? 0x80 0xbf d with
              | none => .error (.invalid index 2)
              | some third =>
                let share := share * 64 + third
                if more = 2 then consChar share (decodeFrom (index + 3) ds)
                else
                  match ds with
                  | [] => .error (.incomplete index)
                  | e :: es =>
                    match tail? 0x80 0xbf e with
                    | none => .error (.invalid index 3)
                    | some fourth => consChar (share * 64 + fourth) (decodeFrom (index + 4) es)

/-- The text with the given bytes. -/
def decode (bytes : List UInt8) : Except Utf8Error (List Char) := decodeFrom 0 bytes

end Bookmarklet.Text
