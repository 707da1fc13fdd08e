import Tutor.Number.Single
import Tutor.Text.Utf8

/-!
# Number literals

A number literal of JSON keeps its parts: sign, whole digits, digits of the fraction, exponent. Its
value is an integer if it is written as one and fits into 64 bits. Otherwise it is a number of 64
bits, made from as many leading digits as fit into 64 bits by one multiplication or by divisions
with powers of ten, each of them rounded.
-/

namespace Tutor.Json

open Tutor.Number Tutor.Text

/-- A piece of a text that may hold bytes that are no character. -/
abbrev Symbol := Option Char

/-- A number literal. -/
structure Numeral where
  /-- Whether a minus sign stands in front. -/
  negative : Bool
  /-- The digits before the point. -/
  whole : List Nat
  /-- The digits after the point; there is no point if there are none. -/
  fraction : List Nat
  /-- The exponent, zero if there is none. -/
  exponent : Int
  /-- Whether an exponent is written. -/
  hasExponent : Bool
deriving DecidableEq, Repr

/-- The value of a literal: an integer, or a signed magnitude. -/
inductive Quantity where
  /-- An integer of 64 bits, with or without a sign. -/
  | whole (n : Int)
  /-- A number of 64 bits. -/
  | real (negative : Bool) (magnitude : Scaled)
deriving DecidableEq, Repr

namespace Numeral

/-- The greatest significand. -/
def mostSignificand : Nat := twoTo 64 - 1

/-- Extends a significand by leading digits as long as it fits; also the digits that are left. -/
def gather (n : Nat) : List Nat → Nat × List Nat
  | [] => (n, [])
  | d :: ds => if n * 10 + d ≤ mostSignificand then gather (n * 10 + d) ds else (n, d :: ds)

/-- The power of ten, as a number of 64 bits. -/
def power (e : Nat) : Scaled := (Format.double.round? (tenTo e) 1).getD ⟨0, 0⟩

/-- The quotient of two magnitudes, rounded. -/
def divide (a b : Scaled) : Scaled :=
  (Format.double.round? (a.ratio.1 * b.ratio.2) (a.ratio.2 * b.ratio.1)).getD ⟨0, 0⟩

/-- The greatest exponent with a power of ten of its own. -/
def mostPower : Nat := 308

/-- Divides by powers of ten that have one of their own, until the exponent is used up or nothing
is left. -/
def lower (s : Scaled) (e : Nat) : Scaled :=
  if _h : e ≤ mostPower then divide s (power e)
  else if s.isZero then s
  else lower (divide s (power mostPower)) (e - mostPower)
termination_by e
decreasing_by simp only [mostPower] at *; omega

/-- A significand times a power of ten, unless it is out of range. -/
def scale? (significand : Nat) (e : Int) : Option Scaled := do
  let s ← Format.double.round? significand 1
  if e < 0 then some (lower s (-e).toNat)
  else if e.toNat ≤ mostPower then
    let p := power e.toNat
    Format.double.round? (s.ratio.1 * p.ratio.1) (s.ratio.2 * p.ratio.2)
  else if s.isZero then some s
  else none

/-- The magnitude of a literal as a number of 64 bits. -/
def magnitude? (n : Numeral) : Option Scaled :=
  let (front, more) := gather 0 n.whole
  let (all, rest) := gather front n.fraction
  scale? all (more.length - (n.fraction.length - rest.length : Nat) + n.exponent)

/-- The value of a literal, unless it is out of range. Zero with a minus sign is no integer. -/
def quantity? (n : Numeral) : Option Quantity :=
  let (front, more) := gather 0 n.whole
  let isWhole := more.isEmpty && n.fraction.isEmpty && !n.hasExponent
  if isWhole && !n.negative then some (.whole front)
  else if isWhole && 0 < front && front ≤ twoTo 63 then some (.whole (-front))
  else n.magnitude?.map (.real n.negative)

/-! ### Reading -/

/-- The digits at the front, and the rest. -/
def digits : List Symbol → List Nat × List Symbol
  | some c :: rest =>
    match digit? c with
    | some d => let r := digits rest; (d :: r.1, r.2)
    | none => ([], some c :: rest)
  | cs => ([], cs)

theorem length_digits : ∀ cs, (digits cs).2.length ≤ cs.length
  | [] => Nat.le_refl _
  | none :: _ => Nat.le_refl _
  | some c :: rest => by
    simp only [digits]
    split
    · exact Nat.le_succ_of_le (length_digits rest)
    · exact Nat.le_refl _

/-- A fraction, which may be missing. -/
def fractionOf? : List Symbol → Option (List Nat × List Symbol)
  | some '.' :: rest =>
    let r := digits rest
    if r.1.isEmpty then none else some r
  | cs => some ([], cs)

/-- The number that decimal digits spell. -/
def spelled (ds : List Nat) : Nat := ds.foldl (fun n d => n * 10 + d) 0

/-- The digits of an exponent, after its sign. -/
def exponentDigits? (negative : Bool) (cs : List Symbol) : Option (Option Int × List Symbol) :=
  let r := digits cs
  if r.1.isEmpty then none
  else
    let n : Int := spelled r.1
    some (some (if negative then -n else n), r.2)

/-- An exponent, which may be missing. -/
def exponentOf? : List Symbol → Option (Option Int × List Symbol)
  | some 'e' :: some '+' :: rest | some 'E' :: some '+' :: rest => exponentDigits? false rest
  | some 'e' :: some '-' :: rest | some 'E' :: some '-' :: rest => exponentDigits? true rest
  | some 'e' :: rest | some 'E' :: rest => exponentDigits? false rest
  | cs => some (none, cs)

/-- The literal after its sign. A zero at the front must be the only whole digit. -/
def unsigned? (negative : Bool) (cs : List Symbol) : Option (Numeral × List Symbol) := do
  let r := digits cs
  match r.1 with
  | [] => none
  | 0 :: _ :: _ => none
  | whole =>
    let (fraction, cs) ← fractionOf? r.2
    let (exponent, cs) ← exponentOf? cs
    return (⟨negative, whole, fraction, exponent.getD 0, exponent.isSome⟩, cs)

/-- A literal at the front, and the rest. -/
def read? : List Symbol → Option (Numeral × List Symbol)
  | some '-' :: rest => unsigned? true rest
  | cs => unsigned? false cs

end Numeral

end Tutor.Json
