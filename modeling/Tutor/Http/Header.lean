import Tutor.Text.Letter

/-!
# Header fields

A header is a list of named byte strings in the order in which they came. Names are kept in lower
case, so that looking one up is a comparison.
-/

namespace Tutor.Http

/-- A header field. -/
structure Field where
  /-- The name, in lower case. -/
  name : String
  /-- The bytes of the value. -/
  value : List UInt8
deriving DecidableEq, Repr

/-- Header fields in order of arrival. -/
abbrev Header := List Field

namespace Header

/-- The first value under a name. -/
def first? (h : Header) (name : String) : Option (List UInt8) :=
  (h.find? (·.name == name)).map (·.value)

/-- The header without the fields of some names. -/
def without (h : Header) (names : List String) : Header :=
  h.filter (fun f => !names.contains f.name)

end Header

/-- The bytes of a text of ASCII characters. -/
def asciiBytes (s : String) : List UInt8 := s.toUTF8.toList

/-- A field with a text for its value. -/
def field (name value : String) : Field := ⟨name, asciiBytes value⟩

/-- A value as text: every byte must be a visible character, a space or a tab. -/
def valueText? (value : List UInt8) : Option String :=
  if value.all (fun b => b == 9 || (32 ≤ b && b < 127)) then
    some (String.ofList (value.map (fun b => Char.ofNat b.toNat)))
  else none

end Tutor.Http
