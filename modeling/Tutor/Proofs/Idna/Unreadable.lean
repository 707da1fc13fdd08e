import Tutor.Proofs.Idna.Rereading
import Tutor.Proofs.Url.HostReading

/-!
# Names that are written and cannot be read

A label is put into Punycode up to one length and read from Punycode up to another, and what is put
into Punycode can be more than twice as long as it was. For each of its characters beyond ASCII
takes three digits, if they lie far apart and there are letters of ASCII in front. So there are
names that become hosts, and what these are written as is refused.

* `Punycode.length_encode_ge` – how long a label becomes.
* `isEncodable_spread`, `maxDecoded_lt_spread` – a host that cannot be read from what it is written
  as.
-/

namespace Tutor.Idna.Punycode

open Tutor.Text

variable {c : Char} {label : List Char} {bias k : Nat}

/-! ### How long a label becomes -/

/-- A distance that takes three digits, whatever the thresholds. -/
def far : Nat := 911

theorem length_number_ge {q : Nat} (hfar : far ≤ q) : 3 ≤ (number bias q k).length := by
  have hlow := threshold_pos
  have hhigh := threshold_le
  rw [far] at hfar
  have hmore : ∀ k q, 26 ≤ q → number bias q k =
      digit (threshold k bias + (q - threshold k bias) % (base - threshold k bias)) ::
        number bias ((q - threshold k bias) / (base - threshold k bias)) (k + base) := by
    intro k q hq
    have := hlow k bias
    have := hhigh k bias
    have hopen : ¬(q < threshold k bias ∨ threshold k bias = 0 ∨ base ≤ threshold k bias) := by
      simp only [base]
      omega
    rw [number, dif_neg hopen]
  have hlast : ∀ k q, 1 ≤ (number bias q k).length := by
    intro k q
    rw [number]
    split <;> simp
  have hnext : 26 ≤ (q - threshold k bias) / (base - threshold k bias) := by
    have := hlow k bias
    have := hhigh k bias
    simp only [base]
    rw [Nat.le_div_iff_mul_le (by omega)]
    omega
  rw [hmore k q (by omega), hmore _ _ hnext]
  simp only [List.length_cons]
  have := hlast (k + base + base)
    (((q - threshold k bias) / (base - threshold k bias) - threshold (k + base) bias) /
      (base - threshold (k + base) bias))
  omega

theorem length_le_step (m : Nat) (p : Progress) (c : Char) :
    p.out.length ≤ (step m p c).out.length ∧ p.handled ≤ (step m p c).handled := by
  rw [step]
  split
  · exact ⟨Nat.le_refl _, Nat.le_refl _⟩
  · split
    · exact ⟨by simp, Nat.le_succ _⟩
    · exact ⟨Nat.le_refl _, Nat.le_refl _⟩

theorem length_le_foldl (m : Nat) : ∀ (cs : List Char) (p : Progress),
    p.out.length ≤ (cs.foldl (step m) p).out.length ∧
      p.handled ≤ (cs.foldl (step m) p).handled
  | [], p => ⟨Nat.le_refl _, Nat.le_refl _⟩
  | c :: cs, p => by
    obtain ⟨hout, hhandled⟩ := length_le_step m p c
    obtain ⟨hout', hhandled'⟩ := length_le_foldl m cs (step m p c)
    exact ⟨hout.trans hout', hhandled.trans hhandled'⟩

/-- The first character of a code point is written in three digits at least, if the code point lies
far ahead. -/
theorem length_foldl_ge (m : Nat) : ∀ (cs : List Char) (p : Progress), far ≤ p.delta →
    (∃ c ∈ cs, c.toNat = m) → p.out.length + 3 ≤ (cs.foldl (step m) p).out.length
  | [], _, _, hmem => by
    obtain ⟨c, hc, -⟩ := hmem
    exact absurd hc List.not_mem_nil
  | c :: cs, p, hfar, ⟨d, hd, hm⟩ => by
    rw [List.foldl_cons]
    by_cases hc : c.toNat = m
    · have hstep : p.out.length + 3 ≤ (step m p c).out.length := by
        rw [step, if_neg (by omega), if_pos hc, List.length_append]
        exact Nat.add_le_add_left (length_number_ge hfar) _
      exact hstep.trans (length_le_foldl m cs _).1
    · have hmem : ∃ c ∈ cs, c.toNat = m := by
        rcases List.mem_cons.mp hd with rfl | hd
        · exact absurd hm hc
        · exact ⟨d, hd, hm⟩
      have hfar' : far ≤ (step m p c).delta := by
        rw [step]
        split
        · exact Nat.le_succ_of_le hfar
        · exact hfar
      have := length_foldl_ge m cs (step m p c) hfar' hmem
      have := (length_le_step m p c).1
      omega

/-- Three digits are written for each code point, if the code points lie far apart. How far that is
depends on the number of characters written before. -/
theorem length_rounds_ge {gap : Nat} : ∀ (points : List Nat) (n : Nat) (p : Progress),
    (∀ m ∈ points, ∃ c ∈ label, c.toNat = m) → points.Pairwise (fun a b => a + gap < b) →
    (∀ m ∈ points, n + gap ≤ m) → far ≤ gap * (p.handled + 1) →
      p.out.length + 3 * points.length ≤ (rounds label points n p).out.length
  | [], _, _, _, _, _, _ => Nat.le_refl _
  | m :: points, n, p, hmem, hgap, hfrom, hfar => by
    obtain ⟨hlater, hgap⟩ := List.pairwise_cons.mp hgap
    rw [rounds]
    generalize hp : ({ p with delta := p.delta + (m - n) * (p.handled + 1) } : Progress) = p₁
    have hahead : far ≤ p₁.delta := by
      rw [← hp]
      have hm := hfrom m List.mem_cons_self
      calc far ≤ gap * (p.handled + 1) := hfar
        _ ≤ (m - n) * (p.handled + 1) := Nat.mul_le_mul_right _ (by omega)
        _ ≤ p.delta + (m - n) * (p.handled + 1) := Nat.le_add_left _ _
    have hfirst := length_foldl_ge m label p₁ hahead (hmem m List.mem_cons_self)
    have hhandled := (length_le_foldl m label p₁).2
    have hrest := length_rounds_ge points (m + 1)
      { label.foldl (step m) p₁ with delta := (label.foldl (step m) p₁).delta + 1 }
      (fun q hq => hmem q (List.mem_cons_of_mem _ hq)) hgap
      (fun q hq => by have := hlater q hq; omega)
      (hfar.trans (Nat.mul_le_mul_left _ (by
        rw [← hp] at hhandled ⊢
        exact Nat.succ_le_succ hhandled)))
    rw [← hp] at hfirst hrest ⊢
    simp only [List.length_cons] at *
    omega

/-- A label whose code points beyond ASCII lie far apart is written in its ASCII characters and in
three digits for each of the others. -/
theorem length_encode_ge {gap : Nat} (hgap : (pointsOf label).Pairwise (fun a b => a + gap < b))
    (hfrom : ∀ m ∈ pointsOf label, 0x80 + gap ≤ m)
    (hfar : far ≤ gap * ((label.filter (fun c => c.toNat < 0x80)).length + 1)) :
    (basicOf label).length + 3 * (pointsOf label).length ≤ (encode label).length :=
  length_rounds_ge (pointsOf label) 0x80 (start label) (fun _ hm => (mem_pointsOf.mp hm).2) hgap
    hfrom hfar

end Tutor.Idna.Punycode

namespace Tutor.Idna

open Tutor.Text Tutor.Unicode

variable {label : List Char}

/-! ### Labels that have to be put into Punycode -/

/-- A label that has to be put into Punycode, and is short enough for it. -/
structure IsEncodable (label : List Char) : Prop where
  ordinary : ∀ c ∈ label, isOrdinary c = true
  beyond : ∃ c ∈ label, 0x80 ≤ c.toNat
  unmarked : after? mark label = none
  dotless : ∀ c ∈ label, (c == '.') = false
  short : label.length ≤ maxEncoded

namespace IsEncodable

theorem ofChars?_eq (h : IsEncodable label) :
    Label.ofChars? label =
      some { shown := label, written := mark ++ Punycode.encode label } := by
  have hbeyond : label.all isAscii = false := by
    obtain ⟨c, hc, hle⟩ := h.beyond
    rw [List.all_eq_false]
    exact ⟨c, hc, fun hascii => absurd (isAscii_iff.mp hascii) (Nat.not_lt.mpr hle)⟩
  rw [Label.ofChars?, h.unmarked]
  dsimp only
  rw [Label.ofPlain?, isLabel_of_ordinary h.ordinary, hbeyond, decide_eq_true h.short]
  simp [Punycode.decode?_encode]

theorem toAscii?_eq (h : IsEncodable label) :
    toAscii? label = some (mark ++ Punycode.encode label) := by
  have hwhole : splitWhere (· == '.') label = [label] := splitWhere_of_none h.dotless
  have hlabel : ∀ part ∈ splitWhere (· == '.') label, Label.ofChars? part =
      some { shown := part, written := mark ++ Punycode.encode part } := by
    rw [hwhole]
    rintro part hpart
    obtain rfl := List.mem_singleton.mp hpart
    exact h.ofChars?_eq
  rw [toAscii?_of_labels h.ordinary hlabel, hwhole, List.map_singleton, joinWith_singleton]

/-- What it is written as is one label again. -/
theorem splitWhere_written (h : IsEncodable label) :
    splitWhere (· == '.') (mark ++ Punycode.encode label) = [mark ++ Punycode.encode label] :=
  splitWhere_of_none (isSettled_mark_append
    (isSettled_encode (isLabel_of_ordinary h.ordinary) h.dotless)).dotless

theorem endsInNumber_written (h : IsEncodable label) :
    Url.Host.endsInNumber (mark ++ Punycode.encode label) = false := by
  have hparts : Url.Host.dottedParts (mark ++ Punycode.encode label) =
      [mark ++ Punycode.encode label] := by
    rw [Url.Host.dottedParts, h.splitWhere_written]
    rfl
  have hnumber : Url.Host.numberOf? (mark ++ Punycode.encode label) = none := by
    -- No number begins with the first letter of the mark.
    have hnone : ∀ cs : List Char, cs.foldl
        (fun n? c => do return (← n?) * 10 + (← digitIn? 10 c)) (none : Option Nat) = none := by
      intro cs
      induction cs with
      | nil => rfl
      | cons c cs ih => exact ih
    exact hnone _
  rw [Url.Host.endsInNumber, hparts]
  simp only [List.getLast?_singleton, hnumber, Option.isSome_none, Bool.or_false]
  rfl

/-- The label as a host. -/
theorem host_eq (h : IsEncodable label) :
    Url.Host.ofChars label = .ok (.name (String.ofList (mark ++ Punycode.encode label))) := by
  have hallowed : ∀ c ∈ label, isForbidden c = false := fun c hc =>
    isForbidden_of_mem_label (isLabel_of_ordinary h.ordinary) hc
  rw [Url.Host.ofChars_of_unescaped (Url.Host.head?_ne_of_not_forbidden hallowed)
    (Url.Host.not_mem_of_not_forbidden hallowed), h.toAscii?_eq]
  dsimp only
  rw [Url.Host.ofAscii, h.endsInNumber_written]
  rfl

/-- The host can be read from what it is written as exactly if that is short enough. -/
theorem isReadable_host (h : IsEncodable label) :
    (Url.Host.name (String.ofList (mark ++ Punycode.encode label))).isReadable =
      decide ((Punycode.encode label).length ≤ maxDecoded) := by
  have hafter : after? mark (mark ++ Punycode.encode label) = some (Punycode.encode label) :=
    after?_eq_some_iff.mpr rfl
  rw [Url.Host.isReadable, String.toList_ofList, h.splitWhere_written, List.all_cons, List.all_nil,
    Bool.and_true, isReadable, hafter]

end IsEncodable

/-! ### A label that is written and cannot be read -/

/-- Letters, and behind them Chinese characters at equal distances. -/
def spread : List Char :=
  List.replicate 200 'a' ++ (List.range 700).map fun i => Char.ofNat (0x4E00 + 29 * i)

theorem toNat_ideograph {i : Nat} (hi : i < 700) :
    (Char.ofNat (0x4E00 + 29 * i)).toNat = 0x4E00 + 29 * i :=
  toNat_ofNat (by omega)

theorem mem_spread {c : Char} (hc : c ∈ spread) :
    c = 'a' ∨ ∃ i < 700, c.toNat = 0x4E00 + 29 * i := by
  rcases List.mem_append.mp hc with hc | hc
  · exact .inl (List.eq_of_mem_replicate hc)
  · obtain ⟨i, hi, rfl⟩ := List.mem_map.mp hc
    rw [List.mem_range] at hi
    exact .inr ⟨i, hi, toNat_ideograph hi⟩

theorem isOrdinary_of_mem_spread {c : Char} (hc : c ∈ spread) : isOrdinary c = true := by
  rcases mem_spread hc with rfl | ⟨i, hi, hvalue⟩
  · decide
  · rw [isOrdinary, isIdeograph_iff.mpr ⟨by omega, by omega⟩]
    rfl

theorem isEncodable_spread : IsEncodable spread where
  ordinary _ hc := isOrdinary_of_mem_spread hc
  beyond := by
    refine ⟨Char.ofNat (0x4E00 + 29 * 0), ?_, by decide⟩
    exact List.mem_append_right _ (List.mem_map.mpr ⟨0, List.mem_range.mpr (by decide), rfl⟩)
  unmarked := rfl
  dotless c hc := by
    rw [beq_eq_false_iff_ne]
    rintro rfl
    rcases mem_spread hc with hc | ⟨i, -, hvalue⟩
    · exact absurd hc (by decide)
    · have : ('.' : Char).toNat = 0x2E := rfl
      omega
  short := by
    rw [spread, List.length_append, List.length_replicate, List.length_map, List.length_range]
    decide

theorem mem_pointsOf_spread {n : Nat} :
    n ∈ Punycode.pointsOf spread ↔ ∃ i < 700, n = 0x4E00 + 29 * i := by
  rw [Punycode.mem_pointsOf]
  constructor
  · rintro ⟨hbeyond, c, hc, rfl⟩
    rcases mem_spread hc with rfl | hvalue
    · exact absurd hbeyond (by decide)
    · exact hvalue
  · rintro ⟨i, hi, rfl⟩
    refine ⟨by omega, Char.ofNat (0x4E00 + 29 * i), ?_, toNat_ideograph hi⟩
    exact List.mem_append_right _ (List.mem_map.mpr ⟨i, List.mem_range.mpr hi, rfl⟩)

theorem length_pointsOf_spread : (Punycode.pointsOf spread).length = 700 := by
  have hnodup : (Punycode.pointsOf spread).Nodup :=
    (Punycode.pairwise_pointsOf spread).imp fun h => Nat.ne_of_lt h
  have hrange : ((List.range 700).map fun i => 0x4E00 + 29 * i).Nodup :=
    List.pairwise_map.mpr (List.nodup_range.imp fun hne heq => hne (by omega))
  -- Both lists hold the same numbers, and none twice.
  have hperm : (Punycode.pointsOf spread).Perm ((List.range 700).map fun i => 0x4E00 + 29 * i) := by
    refine (List.perm_ext_iff_of_nodup hnodup hrange).mpr fun n => ?_
    rw [mem_pointsOf_spread, List.mem_map]
    constructor
    · rintro ⟨i, hi, rfl⟩
      exact ⟨i, List.mem_range.mpr hi, rfl⟩
    · rintro ⟨i, hi, rfl⟩
      exact ⟨i, List.mem_range.mp hi, rfl⟩
  rw [hperm.length_eq, List.length_map, List.length_range]

theorem filter_spread : spread.filter (fun c => c.toNat < 0x80) = List.replicate 200 'a' := by
  have hbeyond : ((List.range 700).map fun i => Char.ofNat (0x4E00 + 29 * i)).filter
      (fun c => c.toNat < 0x80) = [] := by
    rw [List.filter_eq_nil_iff]
    intro c hc
    obtain ⟨i, hi, rfl⟩ := List.mem_map.mp hc
    rw [toNat_ideograph (List.mem_range.mp hi), decide_eq_true_eq]
    omega
  rw [spread, List.filter_append, hbeyond, List.append_nil, List.filter_replicate]
  rfl

/-- Three digits for each of the Chinese characters are too many. -/
theorem maxDecoded_lt_spread : maxDecoded < (Punycode.encode spread).length := by
  have hgap : (Punycode.pointsOf spread).Pairwise fun a b => a + 28 < b := by
    -- The code points increase, and any two of them are a multiple of the distance apart.
    refine (Punycode.pairwise_pointsOf spread).imp_of_mem fun ha hb hlt => ?_
    obtain ⟨i, -, rfl⟩ := mem_pointsOf_spread.mp ha
    obtain ⟨j, -, rfl⟩ := mem_pointsOf_spread.mp hb
    omega
  have hfrom : ∀ m ∈ Punycode.pointsOf spread, 0x80 + 28 ≤ m := by
    intro m hm
    obtain ⟨i, -, rfl⟩ := mem_pointsOf_spread.mp hm
    omega
  have hlength := Punycode.length_encode_ge hgap hfrom (by
    rw [filter_spread, List.length_replicate]
    decide)
  rw [length_pointsOf_spread] at hlength
  calc maxDecoded < 3 * 700 := by decide
    _ ≤ (Punycode.basicOf spread).length + 3 * 700 := Nat.le_add_left _ _
    _ ≤ (Punycode.encode spread).length := hlength

end Tutor.Idna
