import Tutor.Text.Letter
import Tutor.Text.Utf8

/-!
# Character sets

The text of a body, by the character set that its media type names. A mark at the beginning of the
body that tells the set wins over the name, and a set that is not known counts as UTF-8.
-/

namespace Tutor.Text

/-- A character set. -/
inductive Charset where
  /-- UTF-8. -/
  | utf8
  /-- UTF-16, with the greater byte first or last. -/
  | utf16 (bigEndian : Bool)
  /-- One byte for each character of western languages. -/
  | western
deriving DecidableEq, Repr

namespace Charset

/-- The names of the western set. -/
def westernNames : List String :=
  ["ascii", "us-ascii", "iso-8859-1", "iso8859-1", "iso_8859-1", "iso88591", "latin1", "l1",
   "cp1252", "windows-1252", "x-cp1252", "ansi_x3.4-1968", "cp819", "ibm819", "iso-ir-100"]

/-- The set of a name. -/
def ofName (name : String) : Charset :=
  let n := lowered name
  if westernNames.contains n then .western
  else if n == "utf-16" || n == "utf-16le" || n == "ucs-2" || n == "iso-10646-ucs-2" then
    .utf16 false
  else if n == "utf-16be" then .utf16 true
  else .utf8

/-- The western characters in the place of the second block of controls. -/
def westernUpper : List Nat :=
  [0x20AC, 0x81, 0x201A, 0x192, 0x201E, 0x2026, 0x2020, 0x2021, 0x2C6, 0x2030, 0x160, 0x2039,
   0x152, 0x8D, 0x17D, 0x8F, 0x90, 0x2018, 0x2019, 0x201C, 0x201D, 0x2022, 0x2013, 0x2014, 0x2DC,
   0x2122, 0x161, 0x203A, 0x153, 0x9D, 0x17E, 0x178]

/-- The western character of a byte. -/
def westernChar (b : UInt8) : Char :=
  let n := b.toNat
  if 0x80 ≤ n ∧ n < 0xA0 then Char.ofNat (westernUpper.getD (n - 0x80) 0xFFFD) else Char.ofNat n

/-- The units of UTF-16; half a unit at the end is one that stands for nothing. -/
def units16 (bigEndian : Bool) : List UInt8 → List Nat
  | a :: b :: rest =>
    (if bigEndian then a.toNat * 256 + b.toNat else b.toNat * 256 + a.toNat) ::
      units16 bigEndian rest
  | [_] => [0xDC00]
  | [] => []

/-- The characters of units, with a replacement for those that stand for nothing. -/
def chars16 : List Nat → List Char
  | [] => []
  | [n] => [if 0xD800 ≤ n ∧ n ≤ 0xDFFF then '\uFFFD' else Char.ofNat n]
  | n :: m :: rest =>
    if n < 0xD800 ∨ 0xDFFF < n then Char.ofNat n :: chars16 (m :: rest)
    else if n ≤ 0xDBFF ∧ 0xDC00 ≤ m ∧ m ≤ 0xDFFF then
      Char.ofNat (0x10000 + (n - 0xD800) * 0x400 + (m - 0xDC00)) :: chars16 rest
    else '\uFFFD' :: chars16 (m :: rest)
termination_by ns => ns.length

/-- The text of bytes in a set. -/
def text (c : Charset) (bs : List UInt8) : String :=
  match bs with
  | 0xEF :: 0xBB :: 0xBF :: rest => lossyText rest
  | 0xFE :: 0xFF :: rest => String.ofList (chars16 (units16 true rest))
  | 0xFF :: 0xFE :: rest => String.ofList (chars16 (units16 false rest))
  | bs =>
    match c with
    | .utf8 => lossyText bs
    | .utf16 big => String.ofList (chars16 (units16 big bs))
    | .western => String.ofList (bs.map westernChar)

end Charset

end Tutor.Text
