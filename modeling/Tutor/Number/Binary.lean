import Tutor.Number.Power

/-!
# Binary rounding

A binary format keeps numbers of the form `m * 2 ^ e` with a bounded `m`. A quotient of naturals is
rounded to the nearest of them, and to the even one of two that are equally near. Signs are kept
apart from magnitudes.
-/

namespace Tutor.Number

/-- The magnitude `mantissa * 2 ^ exponent`. -/
structure Scaled where
  /-- The factor before the power of two. -/
  mantissa : Nat
  /-- The power of two. -/
  exponent : Int
deriving DecidableEq, Repr

namespace Scaled

/-- A magnitude as a quotient. -/
def ratio (s : Scaled) : Nat × Nat :=
  if 0 ≤ s.exponent then (s.mantissa * twoTo s.exponent.toNat, 1)
  else (s.mantissa, twoTo (-s.exponent).toNat)

/-- Whether the magnitude is zero. -/
def isZero (s : Scaled) : Bool := s.mantissa == 0

end Scaled

/-- A binary format: how many bits a mantissa has, and the range of exponents. -/
structure Format where
  /-- The number of bits of a mantissa. -/
  precision : Nat
  /-- The least exponent, which is also that of zero and of numbers too small for a full mantissa. -/
  least : Int
  /-- The greatest exponent. -/
  greatest : Int

/-- Numbers of 32 bits. -/
def Format.single : Format := ⟨24, -149, 104⟩

/-- Numbers of 64 bits. -/
def Format.double : Format := ⟨53, -1074, 971⟩

/-- The quotient of two naturals, rounded to the nearest natural, to the even one of two. -/
def roundQuotient (num den : Nat) : Nat :=
  let q := num / den
  let twice := 2 * (num % den)
  if twice < den then q
  else if den < twice then q + 1
  else if q % 2 == 0 then q else q + 1

namespace Format

/-- The quotient `num / den` over `2 ^ e`, as a quotient. -/
def shifted (num den : Nat) (e : Int) : Nat × Nat :=
  if 0 ≤ e then (num, den * twoTo e.toNat) else (num * twoTo (-e).toNat, den)

/-- The exponent at which a positive quotient fills the mantissa, or the least one. -/
def exponentOf (f : Format) (num den : Nat) : Int :=
  let guess := max f.least ((Nat.log2 num : Int) - Nat.log2 den - f.precision)
  let (n, d) := shifted num den guess
  if n < d * twoTo f.precision then guess else guess + 1

/-- The number of the format that is nearest to `num / den`, unless it is too great for one. -/
def round? (f : Format) (num den : Nat) : Option Scaled :=
  if num = 0 then some ⟨0, f.least⟩
  else
    let e := f.exponentOf num den
    let (n, d) := shifted num den e
    let m := roundQuotient n d
    let r : Scaled := if m = twoTo f.precision then ⟨twoTo (f.precision - 1), e + 1⟩ else ⟨m, e⟩
    if f.greatest < r.exponent then none else some r

end Format

end Tutor.Number
