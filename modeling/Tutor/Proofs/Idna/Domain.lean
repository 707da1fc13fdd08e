import Tutor.Idna.Domain
import Tutor.Proofs.Text.Cut

/-!
# What a domain name is written in

A domain name in ASCII has no forbidden character in it, so it can stand in a URL as it is. For a
label that is written as it is shown, that is what is checked. A label in Punycode is checked in the
form that it stands for, and it is written in the ASCII characters of that form, hyphens and digits.

* `mem_of_decode?` – the characters of a label in Punycode.
* `isForbidden_of_mem_toAscii?` – the characters of a name.
-/

namespace Tutor.Idna

open Tutor.Text

variable {c : Char} {cs out : List Char}

namespace Punycode

/-- A number is read from digits at the front. -/
theorem digits_of_readNumber? {bias : Nat} : ∀ {cs : List Char} {i w k : Nat}
    {r : Nat × List Char}, readNumber? bias cs i w k = some r →
    ∃ front, cs = front ++ r.2 ∧ ∀ c ∈ front, (value? c).isSome = true
  | [], _, _, _, _, h => by cases h
  | c :: cs, i, w, k, r, h => by
    simp only [readNumber?, Option.bind_eq_bind, Option.bind_eq_some_iff] at h
    obtain ⟨d, hd, h⟩ := h
    have hdigit : (value? c).isSome = true := by rw [hd]; rfl
    split at h
    · obtain rfl := Option.some.inj h
      exact ⟨[c], rfl, by simpa using hdigit⟩
    · obtain ⟨front, hsplit, hfront⟩ := digits_of_readNumber? h
      refine ⟨c :: front, by rw [hsplit, List.cons_append], ?_⟩
      exact List.forall_mem_cons.mpr ⟨hdigit, hfront⟩

/-- Characters are put in between those that are there, and only digits say which. By induction on
the calls, of which each reads a number. -/
theorem mem_of_insertAll? {n i bias : Nat} {first : Bool} {shown : List Char}
    (h : insertAll? cs n i bias first out = some shown) :
    (∀ c ∈ out, c ∈ shown) ∧ ∀ c ∈ cs, (value? c).isSome = true := by
  fun_induction insertAll? cs n i bias first out with
  | case1 n i bias first out =>
    obtain rfl := Option.some.inj h
    exact ⟨fun c hc => hc, fun c hc => absurd hc List.not_mem_nil⟩
  | case2 => cases h
  | case3 n i bias first out c rest j after hread size n' hvalid ih =>
    obtain ⟨hkept, hafter⟩ := ih h
    obtain ⟨front, hsplit, hfront⟩ := digits_of_readNumber? hread
    constructor
    · intro d hd
      apply hkept
      rw [← List.take_append_drop (j % size) out, List.mem_append] at hd
      rw [List.mem_append, List.mem_cons]
      rcases hd with hd | hd
      · exact .inl hd
      · exact .inr (.inr hd)
    · intro d hd
      rw [hsplit, List.mem_append] at hd
      exact hd.elim (hfront d) (hafter d)
  | case4 => cases h

/-- A label falls into ASCII characters, a hyphen and the numbers. -/
theorem mem_splitNumbers (h : c ∈ cs) :
    c ∈ (splitNumbers cs).1 ∨ c = '-' ∨ c ∈ (splitNumbers cs).2 := by
  dsimp only [splitNumbers]
  generalize hn : (cs.reverse.takeWhile (· != '-')).reverse = numbers
  split
  · exact .inr (.inr h)
  · have hreverse : cs.reverse = numbers.reverse ++ cs.reverse.dropWhile (· != '-') := by
      rw [← hn, List.reverse_reverse, List.takeWhile_append_dropWhile]
    cases hrest : cs.reverse.dropWhile (· != '-') with
    | nil =>
      rw [hrest, List.append_nil, List.reverse_inj] at hreverse
      rw [← hreverse]
      exact .inr (.inr h)
    | cons d rest =>
      -- What stands in front of the numbers ends with the hyphen that set them off.
      have hhyphen : d = '-' := by
        have hhead := List.head?_dropWhile_not (· != '-') cs.reverse
        rw [hrest] at hhead
        simpa using hhead
      have hcs : cs = rest.reverse ++ '-' :: numbers := by
        rw [← List.reverse_reverse cs, hreverse, hrest, hhyphen]
        simp
      have hbasic : cs.take (cs.length - numbers.length - 1) = rest.reverse := by
        rw [hcs, List.length_append, List.length_cons]
        exact List.take_left' (by omega)
      rw [hbasic]
      rw [hcs, List.mem_append, List.mem_cons] at h
      exact h

/-- A label in Punycode is written in characters of what it stands for, hyphens and digits. -/
theorem mem_of_decode? {shown : List Char} (h : decode? cs = some shown) (hc : c ∈ cs) :
    c ∈ shown ∨ c = '-' ∨ (value? c).isSome = true := by
  simp only [decode?] at h
  split at h
  · obtain ⟨hkept, hdigits⟩ := mem_of_insertAll? h
    rcases mem_splitNumbers hc with hc | hc | hc
    · exact .inl (hkept c hc)
    · exact .inr (.inl hc)
    · exact .inr (.inr (hdigits c hc))
  · cases h

/-- Digits are letters and figures. -/
theorem isForbidden_of_value? (h : (value? c).isSome = true) : isForbidden c = false := by
  have hrange : ∀ n < 128, (value? (Char.ofNat n)).isSome = true →
      isForbidden (Char.ofNat n) = false := by decide
  have hascii : c.toNat < 128 := by
    have hle : ∀ d : Char, d.toNat < 128 → c ≤ d → c.toNat < 128 :=
      fun d hd hcd => Nat.lt_of_le_of_lt hcd hd
    rw [value?] at h
    split at h
    next hsmall => exact hle 'z' (by decide) hsmall.2
    next =>
      split at h
      next hcapital => exact hle 'Z' (by decide) hcapital.2
      next =>
        split at h
        next hfigure => exact hle '9' (by decide) hfigure.2
        next => cases h
  rw [← Char.ofNat_toNat c] at h ⊢
  exact hrange _ hascii h

end Punycode

/-! ### Labels and names -/

theorem isForbidden_of_mem_label {cs : List Char} (h : isLabel cs = true) (hc : c ∈ cs) :
    isForbidden c = false := by
  simp only [isLabel, Bool.and_eq_true, List.all_eq_true] at h
  have husable := h.1.1.1 c hc
  simp only [isUsable, Bool.and_eq_true, Bool.not_eq_true'] at husable
  exact husable.2

theorem isForbidden_of_mem_encoded {code shown : List Char}
    (hdecode : Punycode.decode? code = some shown) (hlabel : isLabel shown = true)
    (hc : c ∈ mark ++ code) : isForbidden c = false := by
  rcases List.mem_append.mp hc with hc | hc
  · have hmark : mark.all (!isForbidden ·) = true := by decide
    simpa using List.all_eq_true.mp hmark c hc
  · rcases Punycode.mem_of_decode? hdecode hc with hc | rfl | hc
    · exact isForbidden_of_mem_label hlabel hc
    · decide
    · exact Punycode.isForbidden_of_value? hc

theorem isForbidden_of_mem_written {l : Label} (h : Label.ofChars? cs = some l)
    (hc : c ∈ l.written) : isForbidden c = false := by
  rw [Label.ofChars?] at h
  split at h
  next code =>
    split at h
    next =>
      simp only [Label.ofEncoded?, Option.bind_eq_bind, Option.bind_eq_some_iff] at h
      obtain ⟨shown, hdecode, h⟩ := h
      split at h
      next hchecked =>
        obtain rfl := Option.some.inj h
        simp only [Bool.and_eq_true] at hchecked
        exact isForbidden_of_mem_encoded hdecode hchecked.2 hc
      next => cases h
    next => cases h
  next =>
    rw [Label.ofPlain?] at h
    split at h
    next => cases h
    next hlabel =>
      have hlabel : isLabel cs = true := by simpa using hlabel
      split at h
      next =>
        obtain rfl := Option.some.inj h
        exact isForbidden_of_mem_label hlabel hc
      next =>
        dsimp only at h
        split at h
        next hchecked =>
          obtain rfl := Option.some.inj h
          simp only [Bool.and_eq_true, beq_iff_eq] at hchecked
          exact isForbidden_of_mem_encoded hchecked.2 hlabel hc
        next => cases h

/-- No forbidden character stands in a domain name in ASCII. -/
theorem isForbidden_of_mem_toAscii? {ascii : List Char} (h : toAscii? cs = some ascii)
    (hc : c ∈ ascii) : isForbidden c = false := by
  simp only [toAscii?, labels?, Option.bind_eq_bind, Option.map_eq_some_iff,
    Option.bind_eq_some_iff] at h
  obtain ⟨labels, ⟨text, -, labels', hlabels, hsuit⟩, rfl⟩ := h
  split at hsuit
  next =>
    obtain rfl := Option.some.inj hsuit
    rcases mem_joinWith hc with hc | ⟨written, hwritten, hc⟩
    · obtain rfl := List.mem_singleton.mp hc
      decide
    · obtain ⟨l, hl, rfl⟩ := List.mem_map.mp hwritten
      obtain ⟨part, -, hpart⟩ := mem_of_mapM hlabels hl
      exact isForbidden_of_mem_written hpart hc
  next => cases hsuit

end Tutor.Idna
