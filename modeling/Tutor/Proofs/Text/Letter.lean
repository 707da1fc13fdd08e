import Tutor.Text.Letter
import Mathlib.Algebra.Group.Nat.Defs
import Mathlib.Data.List.Induction

/-!
# Letters and numerals

Characters by their code points, and numerals: the digits of a number spell that number in its base,
whether the letters among them are small or not.

* `numeral?_digitsIn` – the digits of a number are read as that number.
* `lt_of_numeral?` – so many digits spell no more than so much.
-/

namespace Tutor.Text

variable {c : Char} {cs : List Char} {base n : Nat}

theorem toNat_ofNat_of_isValidChar (h : n.isValidChar) : (Char.ofNat n).toNat = n := by
  rw [Char.ofNat, dif_pos h]
  rfl

theorem toNat_ofNat (h : n < 0xD800) : (Char.ofNat n).toNat = n :=
  toNat_ofNat_of_isValidChar (.inl h)

/-- What holds of ASCII, from its code points. -/
theorem of_ascii {P : Char → Prop} (h : ∀ n < 128, P (Char.ofNat n)) (hc : c.toNat < 128) :
    P c := by
  rw [← Char.ofNat_toNat c]
  exact h _ hc

theorem isUpper_iff : c.isUpper = true ↔ 0x41 ≤ c.toNat ∧ c.toNat ≤ 0x5A := by
  show decide ('A'.val ≤ c.val ∧ c.val ≤ 'Z'.val) = true ↔ _
  rw [decide_eq_true_eq, UInt32.le_iff_toNat_le, UInt32.le_iff_toNat_le]
  rfl

theorem toLower_of_not_isUpper (h : c.isUpper = false) : c.toLower = c :=
  dif_neg (of_decide_eq_false h)

/-- What becomes a letter when capitals become small is that letter, or ASCII. -/
theorem of_toLower {P : Char → Prop} {d : Char} (hd : P d)
    (h : ∀ n < 128, (Char.ofNat n).toLower = d → P (Char.ofNat n)) (hc : c.toLower = d) : P c := by
  by_cases hupper : c.isUpper = true
  · rw [isUpper_iff] at hupper
    exact of_ascii (P := fun c => c.toLower = d → P c) h (by omega) hc
  · rw [Bool.not_eq_true] at hupper
    rw [toLower_of_not_isUpper hupper] at hc
    rwa [hc]

theorem not_isUpper_toLower (c : Char) : c.toLower.isUpper = false := by
  by_cases h : c.isUpper = true
  · rw [isUpper_iff] at h
    exact of_ascii (P := fun c => c.toLower.isUpper = false) (by decide) (by omega)
  · rw [Bool.not_eq_true] at h
    rw [toLower_of_not_isUpper h, h]

/-! ### Numerals -/

theorem digitIn?_digitChar (hbase : base ≤ 36) (h : n < base) :
    digitIn? base (digitChar n) = some n := by
  have hall : ∀ n < 36, digitIn? 36 (digitChar n) = some n := by decide
  have hvalue := hall n (by omega)
  rw [digitIn?, Option.filter_eq_some_iff] at hvalue ⊢
  exact ⟨hvalue.1, decide_eq_true h⟩

theorem toNat_lt_of_digitIn? (h : digitIn? base c = some n) : c.toNat < 128 := by
  have hle : ∀ d : Char, d.toNat < 128 → c ≤ d → c.toNat < 128 :=
    fun d hd hcd => Nat.lt_of_le_of_lt hcd hd
  rw [digitIn?, Option.filter_eq_some_iff] at h
  have hvalue := h.1
  split at hvalue
  next hfigure => exact hle '9' (by decide) hfigure.2
  next =>
    split at hvalue
    next hsmall => exact hle 'z' (by decide) hsmall.2
    next =>
      split at hvalue
      next hcapital => exact hle 'Z' (by decide) hcapital.2
      next => cases hvalue

theorem lt_of_digitIn? (h : digitIn? base c = some n) : n < base := by
  rw [digitIn?, Option.filter_eq_some_iff] at h
  exact of_decide_eq_true h.2

/-- A digit more. -/
theorem numeral?_append_digit (cs : List Char) (c : Char) :
    numeral? base (cs ++ [c]) = do return (← numeral? base cs) * base + (← digitIn? base c) := by
  rw [numeral?, List.foldl_append]
  rfl

/-- The digits of a number are read as that number. -/
theorem numeral?_digitsIn (hlow : 2 ≤ base) (hhigh : base ≤ 36) (n : Nat) :
    numeral? base (digitsIn base n) = some n := by
  fun_induction digitsIn base n with
  | case1 n h =>
    have hdigit := digitIn?_digitChar hhigh (show n < base by omega)
    simp [numeral?, hdigit]
  | case2 n h ih =>
    have hdigit := digitIn?_digitChar hhigh (Nat.mod_lt n (show 0 < base by omega))
    rw [numeral?_append_digit, ih, hdigit]
    simp [Nat.div_add_mod']

/-- So many digits spell no more than so much. By induction on the digits, the last one first. -/
theorem lt_of_numeral? (h : numeral? base cs = some n) : n < base ^ cs.length := by
  induction cs using List.reverseRecOn generalizing n with
  | nil =>
    cases h
    exact Nat.one_pos
  | append_singleton cs c ih =>
    rw [numeral?_append_digit] at h
    simp only [Option.bind_eq_bind, Option.bind_eq_some_iff, Option.pure_def,
      Option.some.injEq] at h
    obtain ⟨front, hfront, last, hlast, rfl⟩ := h
    have hfront := ih hfront
    have hlast := lt_of_digitIn? hlast
    rw [List.length_append, List.length_singleton, Nat.pow_succ]
    calc front * base + last < (front + 1) * base := by
          rw [Nat.add_mul, Nat.one_mul]
          exact Nat.add_lt_add_left hlast _
      _ ≤ base ^ cs.length * base := Nat.mul_le_mul_right _ hfront

/-- A number below a power of the base has no more digits than the exponent says. -/
theorem length_digitsIn_le (hlow : 2 ≤ base) : ∀ {k n : Nat}, n < base ^ (k + 1) →
    (digitsIn base n).length ≤ k + 1
  | k, n, h => by
    rw [digitsIn]
    split
    · simp
    · next hmore =>
      cases k with
      | zero =>
        rw [Nat.zero_add, Nat.pow_one] at h
        omega
      | succ k =>
        have hdiv : n / base < base ^ (k + 1) := by
          rw [Nat.div_lt_iff_lt_mul (by omega)]
          exact h
        have := length_digitsIn_le hlow hdiv
        simp only [List.length_append, List.length_singleton]
        omega

theorem digitsIn_ne_nil : digitsIn base n ≠ [] := by
  rw [digitsIn]
  split <;> simp

end Tutor.Text
