/-!
# Punycode

A label with characters beyond ASCII is written in ASCII: first its ASCII characters, then, as
numbers in a mixed base, the places and values of the others. The thresholds of the base adapt to
what was written before.
-/

namespace Tutor.Idna.Punycode

/-- The number of digits. -/
def base : Nat := 36

/-- The threshold of a digit, from its distance to the bias. -/
def threshold (k bias : Nat) : Nat :=
  if k ≤ bias then 1 else if bias + 26 ≤ k then 26 else k - bias

/-- How often a distance is reduced, and what is left of it. -/
def reduce (delta k : Nat) : Nat × Nat :=
  if _h : 455 < delta then reduce (delta / 35) (k + base) else (delta, k)
termination_by delta
decreasing_by omega

/-- The bias after a distance has been written. -/
def adapt (delta points : Nat) (first : Bool) : Nat :=
  let delta := if first then delta / 700 else delta / 2
  let (d, k) := reduce (delta + delta / points) 0
  k + 36 * d / (d + 38)

/-- A digit as a character. -/
def digit (n : Nat) : Char :=
  if n < 26 then Char.ofNat ('a'.toNat + n) else Char.ofNat ('0'.toNat + (n - 26))

/-- The value of a digit. -/
def value? (c : Char) : Option Nat :=
  if 'a' ≤ c ∧ c ≤ 'z' then some (c.toNat - 'a'.toNat)
  else if 'A' ≤ c ∧ c ≤ 'Z' then some (c.toNat - 'A'.toNat)
  else if '0' ≤ c ∧ c ≤ '9' then some (c.toNat - '0'.toNat + 26)
  else none

/-- A distance in digits of the mixed base. -/
def number (bias : Nat) (q k : Nat) : List Char :=
  let t := threshold k bias
  if _h : q < t ∨ t = 0 ∨ base ≤ t then [digit q]
  else digit (t + (q - t) % (base - t)) :: number bias ((q - t) / (base - t)) (k + base)
termination_by q
decreasing_by
  have : (q - threshold k bias) / (base - threshold k bias) ≤ q - threshold k bias :=
    Nat.div_le_self _ _
  omega

/-- How far the encoder has come. -/
structure Progress where
  /-- The distance since the last number. -/
  delta : Nat
  /-- The bias. -/
  bias : Nat
  /-- The number of characters written. -/
  handled : Nat
  /-- Whether no number has been written. -/
  first : Bool
  /-- What has been written. -/
  out : List Char

/-- Passes over one character while those of code point `n` are written. -/
def step (n : Nat) (p : Progress) (c : Char) : Progress :=
  if c.toNat < n then { p with delta := p.delta + 1 }
  else if c.toNat = n then
    { delta := 0
      bias := adapt p.delta (p.handled + 1) p.first
      handled := p.handled + 1
      first := false
      out := p.out ++ number p.bias p.delta base }
  else p

/-- Writes the characters of each code point in turn. -/
def rounds (label : List Char) : List Nat → Nat → Progress → Progress
  | [], _, p => p
  | m :: ms, n, p =>
    let p := { p with delta := p.delta + (m - n) * (p.handled + 1) }
    let p := label.foldl (step m) p
    rounds label ms (m + 1) { p with delta := p.delta + 1 }

/-- A label in ASCII, without the mark in front. -/
def encode (label : List Char) : List Char :=
  let basic := label.filter (fun c => c.toNat < 0x80)
  let points := ((label.map Char.toNat).filter (fun n => !(n < 0x80))).mergeSort.eraseDups
  let start := if basic.isEmpty then [] else basic ++ ['-']
  (rounds label points 0x80
    { delta := 0, bias := 72, handled := basic.length, first := true, out := start }).out

/-- Reads one number: the distance and the rest of the digits. -/
def readNumber? (bias : Nat) : List Char → Nat → Nat → Nat → Option (Nat × List Char)
  | [], _, _, _ => none
  | c :: cs, i, w, k => do
    let d ← value? c
    let i := i + d * w
    let t := threshold k bias
    if d < t then some (i, cs) else readNumber? bias cs i (w * (base - t)) (k + base)

theorem length_of_readNumber? {bias : Nat} : ∀ {cs : List Char} {i w k : Nat} {r},
    readNumber? bias cs i w k = some r → r.2.length < cs.length
  | [], _, _, _, _, h => by simp [readNumber?] at h
  | c :: cs, i, w, k, r, h => by
    simp only [readNumber?, Option.bind_eq_bind, Option.bind_eq_some_iff] at h
    obtain ⟨d, -, h⟩ := h
    split at h
    · cases h; simp
    · have := length_of_readNumber? h
      simp only [List.length_cons]; omega

/-- Puts the characters that the numbers stand for into their places. -/
def insertAll? (cs : List Char) (n i bias : Nat) (first : Bool) (out : List Char) :
    Option (List Char) :=
  match cs with
  | [] => some out
  | c :: rest =>
    match _h : readNumber? bias (c :: rest) i 1 base with
    | none => none
    | some (j, after) =>
      let size := out.length + 1
      let n := n + j / size
      if n < 0x110000 ∧ ¬(0xD800 ≤ n ∧ n < 0xE000) then
        insertAll? after n (j % size + 1) (adapt (j - i) size first) false
          (out.take (j % size) ++ Char.ofNat n :: out.drop (j % size))
      else none
termination_by cs.length
decreasing_by exact length_of_readNumber? _h

/-- The ASCII characters of a label and the numbers behind them, on both sides of the last hyphen.
A hyphen with nothing in front belongs to the numbers, and spoils them. -/
def splitNumbers (cs : List Char) : List Char × List Char :=
  let numbers := (cs.reverse.takeWhile (· != '-')).reverse
  let basic := cs.take (cs.length - numbers.length - 1)
  if basic.isEmpty then ([], cs) else (basic, numbers)

/-- The label that ASCII text stands for, without the mark in front. -/
def decode? (cs : List Char) : Option (List Char) :=
  let (basic, numbers) := splitNumbers cs
  if cs.all (fun c => c.toNat < 0x80) then insertAll? numbers 0x80 0 72 true basic else none

end Tutor.Idna.Punycode
