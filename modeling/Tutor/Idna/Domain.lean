import Tutor.Idna.Punycode
import Tutor.Idna.Treatment
import Tutor.Unicode.Composition
import Tutor.Unicode.Direction
import Tutor.Unicode.Joining
import Tutor.Unicode.Mark

/-!
# Domain names

A domain name is brought into ASCII. Its characters are treated one by one and put into composed
form; then each label is checked, and written in Punycode if it still holds characters beyond ASCII.
A label that comes in Punycode is checked in the form that it stands for.
-/

namespace Tutor.Idna

open Tutor.Text Tutor.Unicode

/-- The mark in front of a label in Punycode. -/
def mark : List Char := ['x', 'n', '-', '-']

/-- The longest label beyond ASCII that is put into Punycode. -/
def maxEncoded : Nat := 1000

/-- The longest text that is read as Punycode. -/
def maxDecoded : Nat := 2000

/-- Whether characters may make up a label. -/
def isLabel (cs : List Char) : Bool :=
  cs.all isUsable && composed cs == cs && !cs.head?.any isMark && joinersFit [] cs

/-- A label of a domain name. -/
structure Label where
  /-- The label as it is shown. -/
  shown : List Char
  /-- The label in ASCII. -/
  written : List Char
deriving DecidableEq, Repr

namespace Label

/-- The label that Punycode stands for; it must need it. -/
def ofEncoded? (cs : List Char) : Option Label := do
  let shown ← Punycode.decode? cs
  if cs.length ≤ maxDecoded && shown.any (!isAscii ·) && isLabel shown then
    some { shown, written := mark ++ cs }
  else none

/-- The label of characters that have been treated. -/
def ofPlain? (cs : List Char) : Option Label :=
  if !isLabel cs then none
  else if cs.all isAscii then some { shown := cs, written := cs }
  else
    let code := Punycode.encode cs
    if cs.length ≤ maxEncoded && Punycode.decode? code == some cs then
      some { shown := cs, written := mark ++ code }
    else none

/-- A label of a name; one with the mark in front stands already in Punycode. -/
def ofChars? (cs : List Char) : Option Label :=
  match after? mark cs with
  | some code => if cs.all isAscii then ofEncoded? code else none
  | none => ofPlain? cs

end Label

/-- The labels of a domain name, unless it must be refused. -/
def labels? (cs : List Char) : Option (List Label) := do
  let labels ← (splitWhere (· == '.') (composed (← treated? cs))).mapM Label.ofChars?
  if Direction.suitAll (labels.map (·.shown)) then some labels else none

/-- A domain name in ASCII, unless it must be refused. -/
def toAscii? (cs : List Char) : Option (List Char) :=
  (labels? cs).map fun labels => joinWith ['.'] (labels.map (·.written))

end Tutor.Idna
