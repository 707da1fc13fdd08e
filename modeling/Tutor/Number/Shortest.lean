import Tutor.Number.Binary

/-!
# Shortest decimals

A number of a binary format is written with the fewest decimal digits that are read back as the same
number; of several such decimals the nearest to the number is taken.
-/

namespace Tutor.Number

/-- The decimal `digits * 10 ^ exponent`. -/
structure Decimal where
  /-- The digits as a natural number. -/
  digits : Nat
  /-- The power of ten. -/
  exponent : Int
deriving DecidableEq, Repr

namespace Format

/-- Four times the magnitude, and four times the bounds of what is rounded to it, over a common
denominator. Below a power of two the neighbour is only half as far away. -/
structure Vicinity where
  /-- Four times the lower bound. -/
  low : Nat
  /-- Four times the magnitude. -/
  centre : Nat
  /-- Four times the upper bound. -/
  high : Nat
  /-- The denominator of all three. -/
  den : Nat
  /-- Whether the bounds themselves are rounded to the magnitude. -/
  closed : Bool

/-- The vicinity of a positive magnitude of the format. -/
def vicinity (f : Format) (s : Scaled) : Vicinity :=
  let narrow := s.mantissa == twoTo (f.precision - 1) && f.least < s.exponent
  let (up, den) := (Scaled.mk 1 s.exponent).ratio
  let centre := 4 * s.mantissa * up
  { low := centre - (if narrow then up else 2 * up)
    centre
    high := centre + 2 * up
    den
    closed := s.mantissa % 2 == 0 }

/-- Whether the decimal `k * 10 ^ e` lies in a vicinity, and how far from its centre, times a factor
that depends on `e` only. -/
def distance? (v : Vicinity) (e : Int) (k : Nat) : Option Nat :=
  let (scale, shrink) := if 0 ≤ e then (tenTo e.toNat, 1) else (1, tenTo (-e).toNat)
  let x := 4 * k * scale * v.den
  let low := v.low * shrink
  let high := v.high * shrink
  let inside := if v.closed then low ≤ x && x ≤ high else low < x && x < high
  if inside then
    let c := v.centre * shrink
    some (if x ≤ c then c - x else x - c)
  else none

/-- The best decimal of the vicinity among the multiples of `10 ^ e`: one of the two neighbours of
the centre. -/
def bestAt? (v : Vicinity) (e : Int) : Option Nat :=
  let k :=
    if 0 ≤ e then v.centre / (4 * v.den * tenTo e.toNat)
    else v.centre * tenTo (-e).toNat / (4 * v.den)
  match distance? v e k, distance? v e (k + 1) with
  | some a, some b =>
    some (if a < b then k else if b < a then k + 1 else if k % 2 == 0 then k else k + 1)
  | some _, none => some k
  | none, some _ => some (k + 1)
  | none, none => none

/-- The first hit when the exponent falls step by step. -/
def search (v : Vicinity) : Nat → Int → Decimal
  | 0, e => ⟨v.centre / (4 * v.den), e⟩
  | n + 1, e =>
    match bestAt? v e with
    | some k => ⟨k, e⟩
    | none => search v n (e - 1)

/-- The shortest decimal that is read back as a positive magnitude of the format. -/
def shortest (f : Format) (s : Scaled) : Decimal :=
  let v := f.vicinity s
  let (n, d) := s.ratio
  let start : Int := ((Nat.log2 n : Int) - Nat.log2 d) * 302 / 1000 + 2
  search v (f.precision + 10) start

end Format

end Tutor.Number
