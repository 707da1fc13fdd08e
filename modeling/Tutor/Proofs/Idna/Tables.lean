import Tutor.Idna.Domain
import Tutor.Proofs.Text.Letter

/-!
# What the tables say

The tables of characters are written as words. Here they are gone through, once each, for what
domain names depend on: where ASCII comes in, and that the Chinese characters of the great block are
left alone by all of them.

* `isOutlying_of_parts?`, `isOutlying_of_whole?` – what is taken apart, what is added and what is
  put together are neither.
* `not_isUpper_of_treatment` – no capital letter stands for a character.
* `treatment_ideograph` – a Chinese character stays as it is.
-/

namespace Tutor.Unicode

open Tutor.Text

variable {a b c : Char}

/-- What holds of the entries of a table, from the characters that it is written in. -/
theorem forall_of_words {α : Type} {f : List Char → Option α} {table : String} {cs : List Char}
    {P : α → Bool} (htable : table = String.ofList cs)
    (hall : ((words cs).filterMap f).all P = true) :
    ∀ a ∈ (words table.toList).filterMap f, P a = true := by
  rw [htable, String.toList_ofList]
  exact List.all_eq_true.mp hall

theorem Stretch.holds_iff {s : Stretch} {n : Nat} :
    s.holds n = true ↔ s.first ≤ n ∧ n ≤ s.last := by
  rw [holds, Bool.and_eq_true, decide_eq_true_eq, decide_eq_true_eq]

/-- The Chinese characters of the great block. -/
def ideographs : Stretch := { first := 0x4E00, last := 0x9FFF }

/-- Whether a character is a Chinese character of the great block. -/
def isIdeograph (c : Char) : Bool := ideographs.holds c.toNat

theorem isIdeograph_iff : isIdeograph c = true ↔ 0x4E00 ≤ c.toNat ∧ c.toNat ≤ 0x9FFF :=
  Stretch.holds_iff

/-- Whether a stretch holds no Chinese character of the great block. -/
def Stretch.isApart (s : Stretch) : Bool :=
  s.last < ideographs.first || ideographs.last < s.first

theorem Stretch.isApart_iff {s : Stretch} :
    s.isApart = true ↔ s.last < 0x4E00 ∨ 0x9FFF < s.first := by
  rw [isApart, Bool.or_eq_true, decide_eq_true_eq, decide_eq_true_eq]
  rfl

theorem Stretch.not_holds_of_isApart {s : Stretch} (h : s.isApart = true)
    (hc : isIdeograph c = true) : s.holds c.toNat = false := by
  rw [Stretch.isApart_iff] at h
  rw [isIdeograph_iff] at hc
  rw [← Bool.not_eq_true, Stretch.holds_iff]
  omega

theorem isApart_ofText {table : String} {cs : List Char} (htable : table = String.ofList cs)
    (hall : ((words cs).filterMap Stretch.ofChars?).all Stretch.isApart = true) :
    ∀ s ∈ (Repertoire.ofText table).stretches, s.isApart = true :=
  forall_of_words htable hall

theorem not_contains_of_isApart {r : Repertoire} (h : ∀ s ∈ r.stretches, s.isApart = true)
    (hc : isIdeograph c = true) : r.contains c = false :=
  List.any_eq_false.mpr fun s hs => by
    rw [Stretch.not_holds_of_isApart (h s hs) hc]
    exact Bool.false_ne_true

/-! ### Composition -/

/-- Whether a character is neither ASCII nor a Chinese character of the great block. -/
def isOutlying (c : Char) : Bool := 0x80 ≤ c.toNat && !isIdeograph c

theorem isOutlying_iff :
    isOutlying c = true ↔ 0x80 ≤ c.toNat ∧ (c.toNat < 0x4E00 ∨ 0x9FFF < c.toNat) := by
  rw [isOutlying, Bool.and_eq_true, decide_eq_true_eq, Bool.not_eq_true', ← Bool.not_eq_true,
    isIdeograph_iff]
  omega

theorem isOutlying_ofNat {n : Nat} (h : 0x80 ≤ n ∧ n < 0x4E00 ∨ 0x9FFF < n ∧ n < 0xD800) :
    isOutlying (Char.ofNat n) = true := by
  have hn : n < 0xD800 := by omega
  rw [isOutlying_iff, toNat_ofNat hn]
  omega

theorem not_isIdeograph_of_isOutlying (h : isOutlying c = true) : ¬isIdeograph c = true := by
  rw [isOutlying, Bool.and_eq_true, Bool.not_eq_true'] at h
  rw [h.2]
  exact Bool.false_ne_true

set_option maxRecDepth 1000000 in
theorem isOutlying_of_mem_composites : ∀ e ∈ composites,
    (isOutlying e.whole && isOutlying e.second) = true := by
  apply forall_of_words
  · rfl
  · decide +kernel

/-- What is taken apart is neither ASCII nor Chinese, and neither is what was added. -/
theorem isOutlying_of_parts? (h : parts? c = some (a, b)) :
    isOutlying c = true ∧ isOutlying b = true := by
  rw [parts?, Option.or_eq_some_iff] at h
  rcases h with h | ⟨-, h⟩
  · rw [hangulParts?] at h
    split at h
    next hsyllable =>
      refine ⟨isOutlying_iff.mpr (by omega), ?_⟩
      dsimp only at h
      split at h
      all_goals
        obtain ⟨-, rfl⟩ := Prod.mk.inj (Option.some.inj h)
        exact isOutlying_ofNat (by omega)
    next => cases h
  · obtain ⟨e, he, hparts⟩ := Option.map_eq_some_iff.mp h
    have houtlying := isOutlying_of_mem_composites e (List.mem_of_find?_eq_some he)
    rw [Bool.and_eq_true] at houtlying
    cases hparts
    have hwhole := List.find?_some he
    rw [beq_iff_eq] at hwhole
    rw [← hwhole]
    exact houtlying

/-- What is put together is neither ASCII nor Chinese, and neither is what is added. -/
theorem isOutlying_of_whole? (h : whole? a b = some c) :
    isOutlying c = true ∧ isOutlying b = true := by
  rw [whole?, Option.or_eq_some_iff] at h
  rcases h with h | ⟨-, h⟩
  · rw [hangulWhole?] at h
    split at h
    next =>
      obtain rfl := Option.some.inj h
      exact ⟨isOutlying_ofNat (by omega), isOutlying_iff.mpr (by omega)⟩
    next =>
      split at h
      next =>
        obtain rfl := Option.some.inj h
        exact ⟨isOutlying_ofNat (by omega), isOutlying_iff.mpr (by omega)⟩
      next => cases h
  · obtain ⟨e, he, rfl⟩ := Option.map_eq_some_iff.mp h
    have houtlying := isOutlying_of_mem_composites e (List.mem_of_find?_eq_some he)
    rw [Bool.and_eq_true] at houtlying
    have hparts := List.find?_some he
    simp only [Bool.and_eq_true, beq_iff_eq] at hparts
    rw [← hparts.1]
    exact houtlying

theorem parts?_ideograph (hc : isIdeograph c = true) : parts? c = none := by
  by_contra h
  obtain ⟨⟨a, b⟩, h⟩ := Option.ne_none_iff_exists'.mp h
  exact not_isIdeograph_of_isOutlying (isOutlying_of_parts? h).1 hc

theorem whole?_ideograph (a : Char) (hc : isIdeograph c = true) : whole? a c = none := by
  by_contra h
  obtain ⟨w, h⟩ := Option.ne_none_iff_exists'.mp h
  exact not_isIdeograph_of_isOutlying (isOutlying_of_whole? h).2 hc

set_option maxRecDepth 1000000 in
theorem isApart_combiningClasses :
    ∀ e ∈ combiningClasses, ∀ s ∈ e.2.stretches, s.isApart = true := by
  rw [combiningClasses]
  repeat
    refine List.forall_mem_cons.mpr ⟨?_, ?_⟩
    · apply isApart_ofText
      · rfl
      · decide +kernel
  exact fun _ h => absurd h List.not_mem_nil

theorem combiningClass_ideograph (hc : isIdeograph c = true) : combiningClass c = 0 := by
  rw [combiningClass]
  split
  · rfl
  · split
    next e he =>
      have hcontains := List.find?_some he
      rw [not_contains_of_isApart (isApart_combiningClasses e (List.mem_of_find?_eq_some he)) hc]
        at hcontains
      cases hcontains
    next => rfl

/-! ### Marks and directions -/

set_option maxRecDepth 1000000 in
theorem isMark_ideograph (hc : isIdeograph c = true) : isMark c = false := by
  have hapart : ∀ s ∈ marks.stretches, s.isApart = true := by
    apply isApart_ofText
    · rfl
    · decide +kernel
  rw [isMark, not_contains_of_isApart hapart hc, Bool.and_false]

set_option maxRecDepth 1000000 in
theorem turns_ideograph (hc : isIdeograph c = true) : Direction.turns c = false := by
  have hleftward : ∀ s ∈ leftwardLetters.stretches, s.isApart = true := by
    apply isApart_ofText
    · rfl
    · decide +kernel
  have harabic : ∀ s ∈ arabicDigits.stretches, s.isApart = true := by
    apply isApart_ofText
    · rfl
    · decide +kernel
  rw [Direction.turns, Direction.ofChar, not_contains_of_isApart hleftward hc,
    not_contains_of_isApart harabic hc]
  simp only [Bool.false_eq_true, if_false, Bool.and_eq_false_iff]
  refine .inr ?_
  split
  · rfl
  · split
    · rfl
    · split <;> rfl

end Tutor.Unicode

namespace Tutor.Idna

open Tutor.Text Tutor.Unicode

variable {c : Char} {cs : List Char}

/-- Whether a replacement makes no capital letter, and leaves Chinese characters alone. -/
def Replacement.isProper : Replacement → Bool
  | listed first images =>
    images.all (·.all (!·.isUpper)) && Stretch.isApart { first, last := first + images.length }
  | gathered s image => image.all (!·.isUpper) && s.isApart
  | shifted s target => (target + (s.last - s.first) < 'A'.toNat || 'Z'.toNat < target) && s.isApart
  | paired s => 'Z'.toNat < s.first && s.isApart

set_option maxRecDepth 1000000 in
theorem isProper_of_mem_all : ∀ r ∈ Replacement.all, r.isProper = true := by
  apply forall_of_words
  · rfl
  · decide +kernel

theorem not_isUpper_ofNat {n : Nat} (h : n < 'A'.toNat ∨ 'Z'.toNat < n) :
    (Char.ofNat n).isUpper = false := by
  rw [← Bool.not_eq_true, isUpper_iff]
  by_cases hvalid : n.isValidChar
  · rw [toNat_ofNat_of_isValidChar hvalid]
    have : 'A'.toNat = 0x41 := rfl
    have : 'Z'.toNat = 0x5A := rfl
    omega
  · rw [Char.ofNat, dif_neg hvalid]
    decide

/-- No capital letter stands for a character. -/
theorem not_isUpper_of_at? {r : Replacement} {n : Nat} (hr : r.isProper = true)
    (h : r.at? n = some cs) (hc : c ∈ cs) : c.isUpper = false := by
  cases r with
  | listed first images =>
    rw [Replacement.isProper, Bool.and_eq_true, List.all_eq_true] at hr
    rw [Replacement.at?] at h
    split at h
    next =>
      have himage := hr.1 cs (List.mem_of_getElem? h)
      simpa using List.all_eq_true.mp himage c hc
    next => cases h
  | gathered s image =>
    rw [Replacement.isProper, Bool.and_eq_true, List.all_eq_true] at hr
    rw [Replacement.at?] at h
    split at h
    next =>
      cases h
      simpa using hr.1 c hc
    next => cases h
  | shifted s target =>
    simp only [Replacement.isProper, Bool.and_eq_true, Bool.or_eq_true, decide_eq_true_eq] at hr
    rw [Replacement.at?] at h
    split at h
    next hholds =>
      cases h
      obtain rfl := List.mem_singleton.mp hc
      rw [Stretch.holds_iff] at hholds
      exact not_isUpper_ofNat (by omega)
    next => cases h
  | paired s =>
    simp only [Replacement.isProper, Bool.and_eq_true, decide_eq_true_eq] at hr
    rw [Replacement.at?] at h
    split at h
    next hholds =>
      cases h
      obtain rfl := List.mem_singleton.mp hc
      rw [Bool.and_eq_true, Stretch.holds_iff] at hholds
      exact not_isUpper_ofNat (by omega)
    next => cases h

theorem not_isUpper_of_replacement? (h : replacement? c = some cs) {d : Char} (hd : d ∈ cs) :
    d.isUpper = false := by
  obtain ⟨r, hr, hat⟩ := List.exists_of_findSome?_eq_some h
  exact not_isUpper_of_at? (isProper_of_mem_all r hr) hat hd

/-- A Chinese character is replaced by nothing. -/
theorem at?_ideograph {r : Replacement} (hr : r.isProper = true) (hc : isIdeograph c = true) :
    r.at? c.toNat = none := by
  cases r with
  | listed first images =>
    rw [Replacement.isProper, Bool.and_eq_true, Stretch.isApart_iff] at hr
    rw [isIdeograph_iff] at hc
    rw [Replacement.at?]
    split
    · exact List.getElem?_eq_none (by have := hr.2; dsimp only at this; omega)
    · rfl
  | gathered s image =>
    rw [Replacement.isProper, Bool.and_eq_true] at hr
    rw [Replacement.at?, Stretch.not_holds_of_isApart hr.2 hc]
    rfl
  | shifted s target =>
    rw [Replacement.isProper, Bool.and_eq_true] at hr
    rw [Replacement.at?, Stretch.not_holds_of_isApart hr.2 hc]
    rfl
  | paired s =>
    rw [Replacement.isProper, Bool.and_eq_true] at hr
    rw [Replacement.at?, Stretch.not_holds_of_isApart hr.2 hc]
    rfl

theorem replacement?_ideograph (hc : isIdeograph c = true) : replacement? c = none :=
  List.findSome?_eq_none_iff.mpr fun r hr => at?_ideograph (isProper_of_mem_all r hr) hc

/-! ### Treatment -/

theorem treatment_ascii (h : isAscii c = true) : treatment c = .mapped [c.toLower] := by
  rw [treatment, if_pos h]

/-- No capital letter stands for a character. -/
theorem not_isUpper_of_treatment (h : treatment c = .mapped cs) {d : Char} (hd : d ∈ cs) :
    d.isUpper = false := by
  rw [treatment] at h
  split at h
  next =>
    cases h
    obtain rfl := List.mem_singleton.mp hd
    exact not_isUpper_toLower c
  next hascii =>
    split at h
    next cs' hreplacement =>
      cases h
      exact not_isUpper_of_replacement? hreplacement hd
    next =>
      split at h
      next => cases h
      next =>
        split at h
        next => cases h
        next =>
          cases h
          obtain rfl := List.mem_singleton.mp hd
          rw [isAscii, decide_eq_true_eq] at hascii
          rw [← Bool.not_eq_true, isUpper_iff]
          omega

set_option maxRecDepth 1000000 in
/-- A Chinese character stays as it is. -/
theorem treatment_ideograph (hc : isIdeograph c = true) : treatment c = .mapped [c] := by
  have hinvisible : ∀ s ∈ invisible.stretches, s.isApart = true := by
    apply isApart_ofText
    · rfl
    · decide +kernel
  have hunusable : ∀ s ∈ unusable.stretches, s.isApart = true := by
    apply isApart_ofText
    · rfl
    · decide +kernel
  have hascii : ¬isAscii c = true := by
    rw [isIdeograph_iff] at hc
    rw [isAscii, decide_eq_true_eq]
    omega
  rw [treatment, if_neg hascii, replacement?_ideograph hc, not_contains_of_isApart hinvisible hc,
    not_contains_of_isApart hunusable hc]
  rfl

end Tutor.Idna
