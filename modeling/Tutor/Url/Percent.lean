import Tutor.Text.Letter
import Tutor.Text.Utf8

/-!
# Percent encoding

A byte that must not stand in a part of a URL is written as a percent sign and two hexadecimal
digits. Which ASCII characters must not stand there depends on the part; all others must not stand
anywhere.
-/

namespace Tutor.Url

open Tutor.Text

/-- A byte as a percent sign and two digits. -/
def escapedByte (b : UInt8) : List Char :=
  ['%', (digitChar (b.toNat / 16)).toUpper, (digitChar (b.toNat % 16)).toUpper]

/-- The ASCII characters that are no controls. -/
def isGraphic (c : Char) : Bool := 0x20 ≤ c.toNat && c.toNat < 0x7F

/-- A character, or its bytes in escaped form if it is not one of those to be kept. -/
def encodeChar (keep : Char → Bool) (c : Char) : List Char :=
  if isGraphic c && keep c then [c] else (String.utf8EncodeChar c).flatMap escapedByte

/-- A text with the characters escaped that are not to be kept. -/
def encode (keep : Char → Bool) (cs : List Char) : List Char := cs.flatMap (encodeChar keep)

/-! ### What may stand where -/

/-- Opaque parts keep everything. -/
def inOpaque (_ : Char) : Bool := true

/-- What a fragment keeps. -/
def inFragment (c : Char) : Bool := !(c == ' ' || c == '"' || c == '<' || c == '>' || c == '\x60')

/-- What a path segment keeps. -/
def inPath (c : Char) : Bool :=
  inFragment c && !(c == '#' || c == '?' || c == '\x7b' || c == '\x7d')

/-- What a user name or a password keeps. -/
def inCredentials (c : Char) : Bool :=
  inPath c &&
    !(c == '/' || c == ':' || c == ';' || c == '=' || c == '@' || c == '[' || c == '\\' ||
      c == ']' || c == '^' || c == '|')

/-- What a query keeps; one of a special scheme does not keep an apostrophe. -/
def inQuery (special : Bool) (c : Char) : Bool :=
  !(c == ' ' || c == '"' || c == '#' || c == '<' || c == '>' || (special && c == '\x27'))

/-! ### Decoding -/

/-- The bytes of a text, escapes replaced by the bytes they stand for. -/
def decodeBytes : List Char → List UInt8
  | '%' :: a :: b :: rest =>
    match digitIn? 16 a, digitIn? 16 b with
    | some high, some low => UInt8.ofNat (high * 16 + low) :: decodeBytes rest
    | _, _ => String.utf8EncodeChar '%' ++ decodeBytes (a :: b :: rest)
  | c :: rest => String.utf8EncodeChar c ++ decodeBytes rest
  | [] => []

/-! ### Form encoding -/

/-- The bytes that a form keeps. -/
def inForm (b : UInt8) : Bool :=
  let c := Char.ofNat b.toNat
  c.isAlphanum || c == '*' || c == '-' || c == '.' || c == '_'

/-- A byte in a form; a blank is written as a plus sign. -/
def formByte (b : UInt8) : List Char :=
  if b == 0x20 then ['+'] else if inForm b then [Char.ofNat b.toNat] else escapedByte b

/-- A text as the name or value of a pair in a form. -/
def formText (cs : List Char) : List Char := (utf8 cs).flatMap formByte

/-- A pair of a form. -/
def formPair (p : String × String) : List Char :=
  formText p.1.toList ++ '=' :: formText p.2.toList

/-- The bytes that a name or value of a form stands for. -/
def formBytes (cs : List Char) : List UInt8 :=
  decodeBytes (cs.map fun c => if c == '+' then ' ' else c)

/-- The pairs of a form. -/
def formPairs (cs : List Char) : List (String × String) :=
  ((splitWhere (· == '&') cs).filter (fun p => !p.isEmpty)).map fun part =>
    match cutAt? (· == '=') part with
    | some (name, value) => (lossyText (formBytes name), lossyText (formBytes value))
    | none => (lossyText (formBytes part), "")

end Tutor.Url
