import Tutor.Number.Single

/-!
# Decimal numbers as text

Numbers are written with a point, a power of ten, both or neither, and with a sign. Infinity and
"not a number" have names of their own. What is written is a decimal; rounding comes after.
-/

namespace Tutor.Number

open Tutor.Text

/-- A number as it is spelled: a sign, digits, and the power of ten they are taken times. -/
structure Spelling where
  /-- Whether the sign is a minus. -/
  negative : Bool
  /-- The digits. -/
  digits : Nat
  /-- The power of ten. -/
  exponent : Int
deriving DecidableEq, Repr

namespace Spelling

/-- The power of ten just above the number. -/
def magnitude (d : Spelling) : Int := (digitsIn 10 d.digits).length + d.exponent

/-- Rounds a decimal, by a function that need not deal with numbers far out of range. -/
def roundBy (round : Bool → Nat → Int → Single) (d : Spelling) : Single :=
  if d.digits == 0 || d.magnitude < -400 then round d.negative 0 0
  else if 400 < d.magnitude then .infinite d.negative
  else round d.negative d.digits d.exponent

/-- The single-precision number nearest to a decimal. -/
def single (d : Spelling) : Single := d.roundBy Single.ofDecimal

/-- The nearest double-precision number, rounded again, unless that is out of range. -/
def viaDouble? (d : Spelling) : Option Single :=
  if d.digits == 0 || d.magnitude < -400 then some (Single.ofDecimal d.negative 0 0)
  else if 400 < d.magnitude then none
  else
    let (num, den) :=
      if 0 ≤ d.exponent then (d.digits * tenTo d.exponent.toNat, 1)
      else (d.digits, tenTo (-d.exponent).toNat)
    (Format.double.round? num den).map (Single.ofScaled d.negative)

/-! ### Reading -/

/-- A sign, if there is one, and what follows it. -/
def sign : List Char → Bool × List Char
  | '-' :: rest => (true, rest)
  | '+' :: rest => (false, rest)
  | cs => (false, cs)

/-- The power of ten behind its mark, to the end of the text. -/
def power? (cs : List Char) : Option Int := do
  let (negative, ds) := sign cs
  if ds.isEmpty then none
  let n ← numeral? 10 ds
  return if negative then -n else n

/-- A decimal without its sign, to the end of the text. -/
def unsigned? (negative : Bool) (cs : List Char) : Option Spelling := do
  let whole := cs.takeWhile Char.isDigit
  let rest := cs.drop whole.length
  let (fraction, rest) := match rest with
    | '.' :: more => (more.takeWhile Char.isDigit, more.dropWhile Char.isDigit)
    | rest => ([], rest)
  if whole.isEmpty && fraction.isEmpty then none
  let e ← match rest with
    | [] => some 0
    | c :: rest => if c == 'e' || c == 'E' then power? rest else none
  return {
    negative
    digits := ← numeral? 10 (whole ++ fraction)
    exponent := e - fraction.length }

/-- A decimal with a sign or none. -/
def ofChars? (cs : List Char) : Option Spelling :=
  let (negative, rest) := sign cs
  unsigned? negative rest

end Spelling

/-- The single-precision number that a text spells, in decimal or by name. -/
def Single.ofText? (s : String) : Option Single :=
  let (negative, rest) := Spelling.sign s.toList
  if sameLetters rest "inf".toList || sameLetters rest "infinity".toList then
    some (.infinite negative)
  else if sameLetters rest "nan".toList then some .notANumber
  else (Spelling.unsigned? negative rest).map Spelling.single

/-- The natural number below a bound that a text spells, with a plus sign or none. -/
def natural? (bound : Nat) (cs : List Char) : Option Nat := do
  let ds := match cs with
    | '+' :: rest => rest
    | cs => cs
  if ds.isEmpty then none
  (← numeral? 10 ds |>.map fun n => if n < bound then some n else none)

end Tutor.Number
