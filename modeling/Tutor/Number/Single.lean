import Tutor.Number.Shortest
import Tutor.Text.Letter

/-!
# Single-precision numbers

The numbers of 32 bits, by value: a sign and a magnitude, an infinity, or no number. Zero has a
sign. A magnitude is always in the form that rounding gives it, so that equal numbers are equal
values.
-/

namespace Tutor.Number

open Tutor.Text

/-- A single-precision number. -/
inductive Single where
  /-- A finite number. -/
  | finite (negative : Bool) (magnitude : Scaled)
  /-- An infinity. -/
  | infinite (negative : Bool)
  /-- The result of an operation that has none. -/
  | notANumber
deriving DecidableEq, Repr

namespace Single

/-- The number nearest to a quotient. -/
def ofRatio (negative : Bool) (num den : Nat) : Single :=
  match Format.single.round? num den with
  | some s => .finite negative s
  | none => .infinite negative

/-- The number nearest to a magnitude. -/
def ofScaled (negative : Bool) (s : Scaled) : Single :=
  ofRatio negative s.ratio.1 s.ratio.2

/-- The number nearest to a decimal `n * 10 ^ e`. -/
def ofDecimal (negative : Bool) (n : Nat) (e : Int) : Single :=
  if 0 ≤ e then ofRatio negative (n * tenTo e.toNat) 1 else ofRatio negative n (tenTo (-e).toNat)

/-- The double-precision number nearest to a decimal, rounded again. -/
def ofDecimalTwice (negative : Bool) (n : Nat) (e : Int) : Single :=
  let (num, den) := if 0 ≤ e then (n * tenTo e.toNat, 1) else (n, tenTo (-e).toNat)
  match Format.double.round? num den with
  | some s => ofScaled negative s
  | none => .infinite negative

/-- The number nearest to an integer. -/
def ofInt (n : Int) : Single := ofRatio (n < 0) n.natAbs 1

/-- Whether the number lies between zero and `bound`, both included. -/
def isBetweenZeroAnd (bound : Nat) : Single → Bool
  | finite negative s =>
    s.isZero || (!negative && s.ratio.1 ≤ bound * s.ratio.2)
  | _ => false

/-! ### Writing -/

/-- The digits of a decimal, and the place of its point: how many digits stand before it. -/
def pointed (s : Scaled) : List Char × Int :=
  if s.isZero then (['0'], 1)
  else
    let d := Format.single.shortest s
    let ds := digitsIn 10 d.digits
    (ds, ds.length + d.exponent)

/-- Digits with a point in their place, or zeros up to it; `whole` follows a number without a
fraction. -/
def positional (ds : List Char) (place : Int) (whole : List Char) : List Char :=
  if place ≤ 0 then '0' :: '.' :: List.replicate (-place).toNat '0' ++ ds
  else if ds.length ≤ place.toNat then ds ++ List.replicate (place.toNat - ds.length) '0' ++ whole
  else ds.take place.toNat ++ '.' :: ds.drop place.toNat

/-- Digits with one of them before the point, and a power of ten. -/
def exponential (ds : List Char) (place : Int) : List Char :=
  let mantissa := match ds with
    | [] => []
    | [d] => [d]
    | d :: rest => d :: '.' :: rest
  let e := place - 1
  mantissa ++ 'e' :: (if e < 0 then '-' else '+') :: digitsIn 10 e.natAbs

/-- The sign of a negative number. -/
def signText (negative : Bool) : List Char := if negative then ['-'] else []

/-- The plain form: the shortest decimal, never with a power of ten. -/
def plain : Single → String
  | finite negative s =>
    let (ds, place) := pointed s
    String.ofList (signText negative ++ positional ds place [])
  | infinite negative => String.ofList (signText negative ++ "inf".toList)
  | notANumber => "NaN"

/-- The form of a number literal: the shortest decimal with a point, and with a power of ten where
it is below `10 ^ -5` or from `10 ^ 16` on. There is none where the number is not finite. -/
def literal? : Single → Option String
  | finite negative s =>
    let (ds, place) := pointed s
    let body :=
      if -5 < place && place ≤ 16 then positional ds place ['.', '0'] else exponential ds place
    some (String.ofList (signText negative ++ body))
  | _ => none

end Single

end Tutor.Number
