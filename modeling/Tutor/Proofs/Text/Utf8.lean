import Mathlib.Tactic.Common
import Tutor.Text.Utf8

/-!
# Reading what was written in UTF-8

The bytes of a text spell that text. One character is looked at by the number of its bytes; in each
case the leading byte announces the bytes that follow, with the bits that it carries itself.

* `decode_cons` – the bytes of a character at the front.
* `decode_utf8`, `lossyText_utf8`, `text?_utf8` – the bytes of a text.
-/

namespace Tutor.Text

variable {v : Nat} {b : UInt8} {rest : List UInt8}

/-! ### One character -/

theorem toNat_ofNat_of_lt {n : Nat} (h : n < 256) : (UInt8.ofNat n).toNat = n := by
  rw [UInt8.toNat_ofNat']
  omega

theorem following_cons {acc low high n : Nat} (hlow : low ≤ b.toNat) (hhigh : b.toNat ≤ high) :
    following acc low high (n + 1) (b :: rest) =
      following (acc * 64 + b.toNat % 64) 0x80 0xBF n rest := by
  rw [following, if_pos ⟨hlow, hhigh⟩]

/-- A byte that follows a leading one adds six bits. -/
theorem following_bits {acc low high n m : Nat} (hm : m < 64) (hlow : low ≤ m + 0x80)
    (hhigh : m + 0x80 ≤ high) :
    following acc low high (n + 1) (UInt8.ofNat (m + 0x80) :: rest) =
      following (acc * 64 + m) 0x80 0xBF n rest := by
  have hbyte : (UInt8.ofNat (m + 0x80)).toNat = m + 0x80 := toNat_ofNat_of_lt (by omega)
  rw [following_cons (by omega) (by omega), hbyte]
  congr 1
  omega

theorem decode_ascii (h : v ≤ 0x7F) :
    decode (UInt8.ofNat v :: rest) = some (Char.ofNat v) :: decode rest := by
  have hbyte : (UInt8.ofNat v).toNat = v := toNat_ofNat_of_lt (by omega)
  have hsmall : UInt8.ofNat v < 0x80 := by
    rw [UInt8.lt_iff_toNat_lt, hbyte]
    exact Nat.lt_succ_of_le h
  rw [decode, if_pos hsmall, hbyte]

/-- A leading byte, and what it announces. -/
theorem decode_leading {n bits count low high : Nat} (h : 0x80 ≤ n) (hn : n < 256)
    (hleading : leading? (UInt8.ofNat n) = some (bits, count, low, high)) :
    decode (UInt8.ofNat n :: rest) =
      (following bits low high count rest).1.map Char.ofNat ::
        decode (following bits low high count rest).2 := by
  have hlarge : ¬ UInt8.ofNat n < 0x80 := by
    rw [UInt8.lt_iff_toNat_lt, toNat_ofNat_of_lt hn]
    exact Nat.not_lt.mpr h
  rw [decode, if_neg hlarge, hleading]

theorem leading_two {n : Nat} (hlow : 2 ≤ n) (hhigh : n < 32) :
    leading? (UInt8.ofNat (n + 0xC0)) = some (n, 1, 0x80, 0xBF) := by
  have hbyte : (UInt8.ofNat (n + 0xC0)).toNat = n + 0xC0 := toNat_ofNat_of_lt (by omega)
  simp only [leading?, hbyte]
  rw [if_pos (by omega)]
  simp

/-- Of three bytes, the second is in the range that the first announces: no shorter form would do,
and the character is no surrogate. -/
theorem leading_three (hlow : 0x7FF < v) (hhigh : v ≤ 0xFFFF) (hvalid : v < 0xD800 ∨ 0xDFFF < v) :
    ∃ low high, leading? (UInt8.ofNat (v / 4096 % 16 + 0xE0)) = some (v / 4096, 2, low, high) ∧
      low ≤ v / 64 % 64 + 0x80 ∧ v / 64 % 64 + 0x80 ≤ high := by
  have hbits : v / 4096 % 16 = v / 4096 := by omega
  have hbyte : (UInt8.ofNat (v / 4096 + 0xE0)).toNat = v / 4096 + 0xE0 :=
    toNat_ofNat_of_lt (by omega)
  rw [hbits]
  simp only [leading?, hbyte, beq_iff_eq]
  rw [if_neg (by omega)]
  by_cases hfirst : v / 4096 = 0
  · rw [if_pos (by omega), hfirst]
    exact ⟨_, _, rfl, by omega, by omega⟩
  · rw [if_neg (by omega)]
    by_cases hsurrogate : v / 4096 = 0xD
    · rw [if_pos (by omega), hsurrogate]
      exact ⟨_, _, rfl, by omega, by omega⟩
    · rw [if_neg (by omega), if_pos (by omega), Nat.add_sub_cancel]
      exact ⟨_, _, rfl, by omega, by omega⟩

/-- Of four bytes, the second is in the range that the first announces: no shorter form would do,
and the character is not beyond the last one. -/
theorem leading_four (hlow : 0xFFFF < v) (hhigh : v < 0x110000) :
    ∃ low high, leading? (UInt8.ofNat (v / 262144 % 8 + 0xF0)) = some (v / 262144, 3, low, high) ∧
      low ≤ v / 4096 % 64 + 0x80 ∧ v / 4096 % 64 + 0x80 ≤ high := by
  have hbits : v / 262144 % 8 = v / 262144 := by omega
  have hbyte : (UInt8.ofNat (v / 262144 + 0xF0)).toNat = v / 262144 + 0xF0 :=
    toNat_ofNat_of_lt (by omega)
  rw [hbits]
  simp only [leading?, hbyte, beq_iff_eq]
  rw [if_neg (by omega), if_neg (by omega), if_neg (by omega), if_neg (by omega)]
  by_cases hfirst : v / 262144 = 0
  · rw [if_pos (by omega), hfirst]
    exact ⟨_, _, rfl, by omega, by omega⟩
  · rw [if_neg (by omega)]
    by_cases hmiddle : v / 262144 ≤ 3
    · rw [if_pos (by omega), Nat.add_sub_cancel]
      exact ⟨_, _, rfl, by omega, by omega⟩
    · have hlast : v / 262144 = 4 := by omega
      rw [if_neg (by omega), if_pos (by omega), hlast]
      exact ⟨_, _, rfl, by omega, by omega⟩

/-- A character is no surrogate, and not beyond the last one. -/
theorem toNat_valid (c : Char) : c.toNat < 0x110000 ∧ (c.toNat < 0xD800 ∨ 0xDFFF < c.toNat) := by
  have hvalid : c.toNat.isValidChar := c.valid
  rcases hvalid with hlow | ⟨hlow, hhigh⟩
  · exact ⟨by omega, .inl hlow⟩
  · exact ⟨hhigh, .inr hlow⟩

/-- The bytes of a character at the front are read as that character. -/
theorem decode_cons (c : Char) (rest : List UInt8) :
    decode (String.utf8EncodeChar c ++ rest) = some c :: decode rest := by
  obtain ⟨hlast, hvalid⟩ := toNat_valid c
  have hchar : c = Char.ofNat c.toNat := (Char.ofNat_toNat c).symm
  have hval : c.val.toNat = c.toNat := rfl
  rw [String.utf8EncodeChar, hval]
  generalize c.toNat = v at hlast hvalid hchar
  subst hchar
  -- As many cases as a character can have bytes. In each, the bytes give back all bits of `v`.
  by_cases hone : v ≤ 0x7F
  · rw [if_pos hone]
    exact decode_ascii hone
  rw [if_neg hone]
  by_cases htwo : v ≤ 0x7FF
  · have hbits : v / 64 % 32 = v / 64 := by omega
    rw [if_pos htwo, hbits, List.cons_append, List.singleton_append,
      decode_leading (by omega) (by omega) (leading_two (by omega) (by omega)),
      following_bits (by omega) (by omega) (by omega), following]
    have hv : v / 64 * 64 + v % 64 = v := by omega
    rw [hv]
    rfl
  rw [if_neg htwo]
  by_cases hthree : v ≤ 0xFFFF
  · obtain ⟨low, high, hleading, hlow, hhigh⟩ := leading_three (by omega) hthree hvalid
    rw [if_pos hthree]
    simp only [List.cons_append, List.nil_append]
    rw [decode_leading (by omega) (by omega) hleading, following_bits (by omega) hlow hhigh,
      following_bits (by omega) (by omega) (by omega), following]
    have hv : (v / 4096 * 64 + v / 64 % 64) * 64 + v % 64 = v := by omega
    rw [hv]
    rfl
  · obtain ⟨low, high, hleading, hlow, hhigh⟩ := leading_four (by omega) hlast
    rw [if_neg hthree]
    simp only [List.cons_append, List.nil_append]
    rw [decode_leading (by omega) (by omega) hleading, following_bits (by omega) hlow hhigh,
      following_bits (by omega) (by omega) (by omega),
      following_bits (by omega) (by omega) (by omega), following]
    have hv : ((v / 262144 * 64 + v / 4096 % 64) * 64 + v / 64 % 64) * 64 + v % 64 = v := by omega
    rw [hv]
    rfl

/-! ### Texts -/

theorem decode_utf8 : ∀ cs : List Char, decode (utf8 cs) = cs.map some
  | [] => by
    show decode [] = []
    rw [decode]
  | c :: cs => by
    show decode (String.utf8EncodeChar c ++ utf8 cs) = _
    rw [decode_cons, decode_utf8 cs, List.map_cons]

/-- The bytes of a text spell that text. -/
theorem lossyText_utf8 (cs : List Char) : lossyText (utf8 cs) = String.ofList cs := by
  rw [lossyText, decode_utf8, List.map_map]
  exact congrArg String.ofList (List.map_id cs)

theorem text?_utf8 (cs : List Char) : text? (utf8 cs) = some (String.ofList cs) := by
  have hall : ∀ cs : List Char, (cs.map some).mapM id = some cs := by
    intro cs
    induction cs with
    | nil => rfl
    | cons c cs ih => rw [List.map_cons, List.mapM_cons, ih]; rfl
  rw [text?, decode_utf8, hall]
  rfl

/-- Different texts have different bytes. -/
theorem utf8_injective : Function.Injective utf8 := by
  intro as bs h
  have htext := congrArg text? h
  rw [text?_utf8, text?_utf8] at htext
  exact String.ofList_injective (Option.some.inj htext)

end Tutor.Text
