import Tutor.Text.Blank

/-!
# UTF-8

Bytes are read as characters. Where bytes form no character, the longest beginning of one that is
there, or else a single byte, is read as nothing: `none` stands in its place.
-/

namespace Tutor.Text

/-- The bytes of a text. -/
def utf8 (cs : List Char) : List UInt8 := cs.flatMap String.utf8EncodeChar

/-- The bytes of a string. -/
def bytesOf (s : String) : List UInt8 := utf8 s.toList

/-- What a leading byte announces: the bits it carries itself, how many bytes follow, and the range
of the first of them. Ranges shorter than usual exclude what has a shorter form or no character. -/
def leading? (b : UInt8) : Option (Nat × Nat × Nat × Nat) :=
  let n := b.toNat
  if 0xC2 ≤ n ∧ n ≤ 0xDF then some (n - 0xC0, 1, 0x80, 0xBF)
  else if n == 0xE0 then some (0, 2, 0xA0, 0xBF)
  else if n == 0xED then some (0xD, 2, 0x80, 0x9F)
  else if 0xE1 ≤ n ∧ n ≤ 0xEF then some (n - 0xE0, 2, 0x80, 0xBF)
  else if n == 0xF0 then some (0, 3, 0x90, 0xBF)
  else if 0xF1 ≤ n ∧ n ≤ 0xF3 then some (n - 0xF0, 3, 0x80, 0xBF)
  else if n == 0xF4 then some (4, 3, 0x80, 0x8F)
  else none

/-- Reads the bytes that follow a leading one: the code point, if all are there, and the rest. -/
def following (acc low high : Nat) : Nat → List UInt8 → Option Nat × List UInt8
  | 0, bs => (some acc, bs)
  | _ + 1, [] => (none, [])
  | n + 1, b :: bs =>
    if low ≤ b.toNat ∧ b.toNat ≤ high then
      following (acc * 64 + b.toNat % 64) 0x80 0xBF n bs
    else (none, b :: bs)

theorem length_following (acc low high : Nat) : ∀ (n : Nat) (bs : List UInt8),
    (following acc low high n bs).2.length ≤ bs.length
  | 0, _ => Nat.le_refl _
  | _ + 1, [] => Nat.le_refl _
  | n + 1, b :: bs => by
    simp only [following]
    split
    · exact Nat.le_succ_of_le (length_following _ _ _ n bs)
    · exact Nat.le_refl _

/-- The characters of a byte string, `none` for what is none. -/
def decode (bs : List UInt8) : List (Option Char) :=
  match bs with
  | [] => []
  | b :: rest =>
    if b < 0x80 then some (Char.ofNat b.toNat) :: decode rest
    else
      match leading? b with
      | none => none :: decode rest
      | some (bits, count, low, high) =>
        let r := following bits low high count rest
        r.1.map Char.ofNat :: decode r.2
termination_by bs.length
decreasing_by
  · simp
  · simp
  · exact Nat.lt_succ_of_le (length_following ..)

/-- The text that bytes spell, if they spell one. -/
def text? (bs : List UInt8) : Option String :=
  ((decode bs).mapM id).map String.ofList

/-- The text that bytes spell, with a replacement character for what is none. -/
def lossyText (bs : List UInt8) : String :=
  String.ofList ((decode bs).map (·.getD '\uFFFD'))

end Tutor.Text
