import Tutor.Text.Blank
import Tutor.Text.Letter

/-!
# Stretches of code points

A property of characters is known by the stretches of code points that have it. A set of stretches
is written as words in hexadecimal: `2D` is a single code point and `30-39` a stretch from one code
point to another. Main statement: a set contains what lies in one of its stretches.
-/

namespace Tutor.Unicode

open Tutor.Text

/-- The code points from the first to the last. -/
structure Stretch where
  /-- The first code point. -/
  first : Nat
  /-- The last code point. -/
  last : Nat
deriving DecidableEq, Repr

/-- Whether a code point lies in a stretch. -/
def Stretch.holds (s : Stretch) (n : Nat) : Bool := s.first ≤ n && n ≤ s.last

/-- The stretch that a word stands for. -/
def Stretch.ofChars? (cs : List Char) : Option Stretch :=
  match cutAt? (· == '-') cs with
  | some (a, b) => do return { first := ← numeral? 16 a, last := ← numeral? 16 b }
  | none => do
    let n ← numeral? 16 cs
    return { first := n, last := n }

/-- A set of characters. -/
structure Repertoire where
  /-- The stretches that make up the set. -/
  stretches : List Stretch
deriving Repr

namespace Repertoire

/-- The set whose stretches are the words of a text. -/
def ofText (s : String) : Repertoire := { stretches := (words s.toList).filterMap Stretch.ofChars? }

/-- Whether a character is in the set. -/
def contains (r : Repertoire) (c : Char) : Bool := r.stretches.any (·.holds c.toNat)

/-- A set contains what lies in one of its stretches. -/
theorem contains_iff {r : Repertoire} {c : Char} :
    r.contains c = true ↔ ∃ s ∈ r.stretches, s.first ≤ c.toNat ∧ c.toNat ≤ s.last := by
  simp [contains, Stretch.holds]

end Repertoire

end Tutor.Unicode
