import Tutor.Idna.Punycode
import Mathlib.Data.List.TakeWhile
import Mathlib.Tactic.Ring

/-!
# Punycode read back

What is written in Punycode is read back as it was, whatever the label. The writer goes through the
label once for every code point, and the reader puts the characters in one by one, so the two are
compared after each character that the writer passes. At that moment the reader has the characters
below the code point, and those of the code point that have been passed; the distance that has not
been written yet is what lies between the reader's place and the writer's.

* `readNumber?_number` – a number is read back, whatever follows it.
* `Abreast.step` – writer and reader stay abreast when one character is passed.
* `decode?_encode` – a label is read back.
-/

namespace Tutor.Idna.Punycode

variable {c : Char} {cs label before behind : List Char} {m n k bias : Nat}
  {p p' p'' : Progress}

/-! ### Digits and numbers -/

theorem threshold_pos (k bias : Nat) : 1 ≤ threshold k bias := by
  rw [threshold]
  split
  · exact Nat.le_refl 1
  · split <;> omega

theorem threshold_le (k bias : Nat) : threshold k bias ≤ 26 := by
  rw [threshold]
  split
  · decide
  · split <;> omega

/-- Whether a character is one of the digits, in the form in which they are written. -/
def IsDigit (c : Char) : Prop := ∃ n < base, c = digit n

theorem value?_digit (h : n < base) : value? (digit n) = some n := by
  revert n
  decide

theorem IsDigit.ne_hyphen (h : IsDigit c) : c ≠ '-' := by
  obtain ⟨n, hn, rfl⟩ := h
  revert n
  decide

theorem IsDigit.ne_dot (h : IsDigit c) : (c == '.') = false := by
  obtain ⟨n, hn, rfl⟩ := h
  revert n
  decide

theorem IsDigit.toNat_lt (h : IsDigit c) : c.toNat < 0x80 := by
  obtain ⟨n, hn, rfl⟩ := h
  revert n
  decide

theorem IsDigit.not_isUpper (h : IsDigit c) : c.isUpper = false := by
  obtain ⟨n, hn, rfl⟩ := h
  revert n
  decide

theorem isDigit_of_mem_number (h : c ∈ number bias m k) : IsDigit c := by
  have hlow := threshold_pos
  have hhigh := threshold_le
  fun_induction number bias m k with
  | case1 q k t hlast =>
    obtain rfl := List.mem_singleton.mp h
    have := hlow k bias
    have := hhigh k bias
    exact ⟨q, by simp only [base] at *; omega, rfl⟩
  | case2 q k t hmore ih =>
    rcases List.mem_cons.mp h with rfl | h
    · have : (q - t) % (base - t) < base - t := Nat.mod_lt _ (by omega)
      exact ⟨_, by omega, rfl⟩
    · exact ih h

/-- A number is read back, whatever follows it. By induction on its digits: what a digit counts is
what the digits before it leave open. -/
theorem readNumber?_number (bias q k i w : Nat) (rest : List Char) :
    readNumber? bias (number bias q k ++ rest) i w k = some (i + q * w, rest) := by
  have hlow := threshold_pos
  have hhigh := threshold_le
  fun_induction number bias q k generalizing i w with
  | case1 q k t hlast =>
    have := hlow k bias
    have := hhigh k bias
    have hq : q < t := by
      simp only [base] at hlast
      omega
    have hdigit : q < base := by
      simp only [base]
      omega
    simp [readNumber?, value?_digit hdigit, show q < threshold k bias from hq]
  | case2 q k t hmore ih =>
    have hopen : 0 < base - t := by omega
    have hmod : (q - t) % (base - t) < base - t := Nat.mod_lt _ hopen
    have hdigit : t + (q - t) % (base - t) < base := by omega
    have hsum : t + (q - t) % (base - t) + (q - t) / (base - t) * (base - t) = q := by
      have := Nat.mod_add_div' (q - t) (base - t)
      omega
    have hmore : ¬t + (q - t) % (base - t) < threshold k bias := by
      show ¬_ < t
      omega
    rw [List.cons_append, readNumber?, value?_digit hdigit, Option.bind_eq_bind, Option.bind_some]
    simp only [hmore, if_false]
    rw [show threshold k bias = t from rfl, ih]
    congr 2
    calc i + (t + (q - t) % (base - t)) * w + (q - t) / (base - t) * (w * (base - t))
        = i + (t + (q - t) % (base - t) + (q - t) / (base - t) * (base - t)) * w := by ring
      _ = i + q * w := by rw [hsum]

/-! ### Writer and reader

The writer stands in a label between what it has passed and what is behind, while it writes the
characters of one code point. -/

/-- How far a reader has come. -/
structure Reader where
  /-- The code point of the character that was put in last. -/
  point : Nat
  /-- The place behind it. -/
  place : Nat
  /-- The bias. -/
  bias : Nat
  /-- Whether no number has been read. -/
  first : Bool
  /-- The characters put in. -/
  out : List Char

/-- What a reader makes of the rest of a text. -/
def Reader.read? (r : Reader) (cs : List Char) : Option (List Char) :=
  insertAll? cs r.point r.place r.bias r.first r.out

/-- The reader after a number. -/
def Reader.after (r : Reader) (q : Nat) : Reader :=
  let size := r.out.length + 1
  let j := r.place + q
  { point := r.point + j / size
    place := j % size + 1
    bias := adapt q size r.first
    first := false
    out := r.out.take (j % size) ++ Char.ofNat (r.point + j / size) :: r.out.drop (j % size) }

/-- A reader that sees a number goes on by its distance, and puts a character in. -/
theorem Reader.read?_number {r : Reader} (q : Nat) (rest : List Char)
    (hvalid : (r.after q).point < 0x110000 ∧
      ¬(0xD800 ≤ (r.after q).point ∧ (r.after q).point < 0xE000)) :
    r.read? (number r.bias q base ++ rest) = (r.after q).read? rest := by
  have hread := readNumber?_number r.bias q base r.place 1 rest
  rw [Nat.mul_one] at hread
  rw [Reader.read?]
  cases hcs : number r.bias q base ++ rest with
  | nil => rw [hcs] at hread; cases hread
  | cons c cs =>
    rw [hcs] at hread
    rw [insertAll?]
    split
    next hnone => rw [hread] at hnone; cases hnone
    next j after hsome =>
      rw [hread] at hsome
      cases hsome
      rw [Reader.after] at hvalid
      simp only [if_pos hvalid, Nat.add_sub_cancel_left]
      rfl

/-- The code point of a character is none of the surrogates. -/
theorem valid_toNat (c : Char) :
    c.toNat < 0x110000 ∧ ¬(0xD800 ≤ c.toNat ∧ c.toNat < 0xE000) := by
  have hvalid : c.toNat.isValidChar := c.valid
  simp only [Nat.isValidChar] at hvalid
  omega

/-- The characters of a label that have been written. -/
def written (m : Nat) (before behind : List Char) : List Char :=
  before.filter (·.toNat ≤ m) ++ behind.filter (·.toNat < m)

/-- The place at which the next character of a code point stands among those written. -/
def placeOf (m : Nat) (before : List Char) : Nat := (before.filter (·.toNat ≤ m)).length

/-- A reader has read all that the writer has written. The distance is how far the writer is ahead,
counted in places, of which each code point has one more than there are characters written. -/
structure Abreast (m : Nat) (before behind : List Char) (p : Progress) (r : Reader) : Prop where
  bias : r.bias = p.bias
  first : r.first = p.first
  out : r.out = written m before behind
  handled : p.handled = r.out.length
  point_le : r.point ≤ m
  distance : r.point * (p.handled + 1) + r.place + p.delta =
    m * (p.handled + 1) + placeOf m before

/-- The writer has gone on, and the reader too, by what has been written meanwhile. -/
def Together (p p' : Progress) (r r' : Reader) : Prop :=
  ∃ digits, p'.out = p.out ++ digits ∧ (∀ d ∈ digits, IsDigit d) ∧
    ∀ rest, r.read? (digits ++ rest) = r'.read? rest

theorem Together.refl (r : Reader) (h : p'.out = p.out) : Together p p' r r :=
  ⟨[], by rw [h, List.append_nil], fun _ hd => absurd hd List.not_mem_nil, fun _ => rfl⟩

theorem Together.trans {r r' r'' : Reader} (h : Together p p' r r') (h' : Together p' p'' r' r'') :
    Together p p'' r r'' := by
  obtain ⟨digits, hout, hdigits, hread⟩ := h
  obtain ⟨digits', hout', hdigits', hread'⟩ := h'
  refine ⟨digits ++ digits', by rw [hout', hout, List.append_assoc], ?_, fun rest => ?_⟩
  · intro d hd
    exact (List.mem_append.mp hd).elim (hdigits d) (hdigits' d)
  · rw [List.append_assoc, hread, hread']

theorem placeOf_le (m : Nat) (before behind : List Char) :
    placeOf m before ≤ (written m before behind).length := by
  rw [written, List.length_append]
  exact Nat.le_add_right _ _

/-- The distance brings the reader to the code point and the place of the writer. -/
theorem Abreast.after {r : Reader} (h : Abreast m before behind p r) :
    (r.after p.delta).point = m ∧ (r.after p.delta).place = placeOf m before + 1 ∧
      (r.after p.delta).out = r.out.take (placeOf m before) ++
        Char.ofNat m :: r.out.drop (placeOf m before) := by
  have hplace : placeOf m before < r.out.length + 1 := by
    rw [h.out]
    exact Nat.lt_succ_of_le (placeOf_le m before behind)
  have hj : r.place + p.delta = placeOf m before + (m - r.point) * (r.out.length + 1) := by
    have hm : m * (r.out.length + 1) =
        (m - r.point) * (r.out.length + 1) + r.point * (r.out.length + 1) := by
      rw [← Nat.add_mul, Nat.sub_add_cancel h.point_le]
    have hdistance := h.distance
    rw [h.handled] at hdistance
    omega
  have hdiv : (r.place + p.delta) / (r.out.length + 1) = m - r.point := by
    rw [hj, Nat.add_mul_div_right _ _ (Nat.succ_pos _), Nat.div_eq_of_lt hplace, Nat.zero_add]
  have hmod : (r.place + p.delta) % (r.out.length + 1) = placeOf m before := by
    rw [hj, Nat.add_mul_mod_self_right, Nat.mod_eq_of_lt hplace]
  have hpoint : r.point + (m - r.point) = m := Nat.add_sub_cancel' h.point_le
  simp only [Reader.after, hdiv, hmod, hpoint, and_self]

/-- A character below the code point makes the distance longer by one place. -/
theorem Abreast.step_of_lt {r : Reader} (h : Abreast m before (c :: behind) p r)
    (hc : c.toNat < m) :
    Abreast m (before ++ [c]) behind (step m p c) r ∧ Together p (step m p c) r r := by
  have hwritten : written m (before ++ [c]) behind = written m before (c :: behind) := by
    simp [written, hc, Nat.le_of_lt hc]
  have hplace : placeOf m (before ++ [c]) = placeOf m before + 1 := by
    simp [placeOf, Nat.le_of_lt hc]
  have hstep : Punycode.step m p c = { p with delta := p.delta + 1 } := by
    rw [Punycode.step, if_pos hc]
  rw [hstep]
  refine ⟨⟨h.bias, h.first, by rw [h.out, hwritten], h.handled, h.point_le, ?_⟩, .refl r rfl⟩
  rw [hplace, ← Nat.add_assoc, h.distance, Nat.add_assoc]

/-- A character above the code point changes nothing. -/
theorem Abreast.step_of_gt {r : Reader} (h : Abreast m before (c :: behind) p r)
    (hc : m < c.toNat) :
    Abreast m (before ++ [c]) behind (step m p c) r ∧ Together p (step m p c) r r := by
  have hwritten : written m (before ++ [c]) behind = written m before (c :: behind) := by
    simp [written, Nat.not_le.mpr hc, Nat.lt_asymm hc]
  have hplace : placeOf m (before ++ [c]) = placeOf m before := by
    simp [placeOf, Nat.not_le.mpr hc]
  have hstep : Punycode.step m p c = p := by
    rw [Punycode.step, if_neg (Nat.lt_asymm hc), if_neg (Nat.ne_of_gt hc)]
  rw [hstep]
  refine ⟨⟨h.bias, h.first, by rw [h.out, hwritten], h.handled, h.point_le, ?_⟩, .refl r rfl⟩
  rw [hplace, h.distance]

/-- A character of the code point is written: the number brings the reader to its place, where the
reader puts it in. -/
theorem Abreast.step_of_eq {r : Reader} (h : Abreast m before (c :: behind) p r)
    (hc : c.toNat = m) :
    Abreast m (before ++ [c]) behind (step m p c) (r.after p.delta) ∧
      Together p (step m p c) r (r.after p.delta) := by
  have hwritten : written m before (c :: behind) =
      before.filter (·.toNat ≤ m) ++ behind.filter (·.toNat < m) := by
    simp [written, hc]
  have hwritten' : written m (before ++ [c]) behind =
      before.filter (·.toNat ≤ m) ++ c :: behind.filter (·.toNat < m) := by
    simp [written, hc]
  have hplace : placeOf m (before ++ [c]) = placeOf m before + 1 := by
    simp [placeOf, hc]
  obtain ⟨hpoint, hafter, hout⟩ := h.after
  have houtAfter : (r.after p.delta).out = written m (before ++ [c]) behind := by
    rw [hout, h.out, hwritten, hwritten', placeOf, List.take_left, List.drop_left, ← hc,
      Char.ofNat_toNat]
  have hlength : (r.after p.delta).out.length = r.out.length + 1 := by
    rw [houtAfter, h.out, hwritten, hwritten', List.length_append, List.length_append,
      List.length_cons, Nat.add_assoc]
  have hstep : Punycode.step m p c =
      { delta := 0
        bias := adapt p.delta (p.handled + 1) p.first
        handled := p.handled + 1
        first := false
        out := p.out ++ number p.bias p.delta base } := by
    rw [Punycode.step, if_neg (Nat.not_lt.mpr (Nat.le_of_eq hc.symm)), if_pos hc]
  rw [hstep]
  refine ⟨⟨?bias, rfl, houtAfter, ?handled, Nat.le_of_eq hpoint, ?distance⟩,
    number p.bias p.delta base, rfl, fun d hd => isDigit_of_mem_number hd, fun rest => ?read⟩
  case bias =>
    rw [Reader.after, h.handled, h.first]
  case handled => rw [hlength, h.handled]
  case distance =>
    rw [hpoint, hafter, hplace]
    rfl
  case read =>
    rw [← h.bias]
    refine Reader.read?_number p.delta rest ?_
    rw [hpoint, ← hc]
    exact valid_toNat c

/-- Writer and reader stay abreast when one character is passed. -/
theorem Abreast.step {r : Reader} (h : Abreast m before (c :: behind) p r) :
    ∃ r', Abreast m (before ++ [c]) behind (step m p c) r' ∧ Together p (step m p c) r r' := by
  rcases Nat.lt_trichotomy c.toNat m with hc | hc | hc
  · exact ⟨_, h.step_of_lt hc⟩
  · exact ⟨_, h.step_of_eq hc⟩
  · exact ⟨_, h.step_of_gt hc⟩

/-- They stay abreast over a stretch of the label. -/
theorem Abreast.foldl : ∀ {behind before : List Char} {p : Progress} {r : Reader},
    Abreast m before behind p r →
      ∃ r', Abreast m (before ++ behind) [] (behind.foldl (Punycode.step m) p) r' ∧
        Together p (behind.foldl (Punycode.step m) p) r r'
  | [], before, p, r, h => ⟨r, by rw [List.append_nil]; exact h, .refl r rfl⟩
  | c :: behind, before, p, r, h => by
    obtain ⟨r', h', htogether⟩ := h.step
    obtain ⟨r'', h'', htogether'⟩ := h'.foldl
    rw [List.append_assoc, List.singleton_append] at h''
    exact ⟨r'', h'', htogether.trans htogether'⟩

/-- From the beginning of the label to the beginning for a later code point: if no character lies
between the two, the same characters have been written, and the distance is so many rounds. -/
theorem Abreast.advance {r : Reader} {n : Nat} (h : Abreast n [] label p r) (hle : n ≤ m)
    (hbetween : ∀ c ∈ label, c.toNat < m → c.toNat < n) :
    Abreast m [] label { p with delta := p.delta + (m - n) * (p.handled + 1) } r := by
  have hwritten : written m [] label = written n [] label := by
    have hfilter : label.filter (·.toNat < m) = label.filter (·.toNat < n) :=
      List.filter_congr fun c hc => by
        have := hbetween c hc
        exact decide_eq_decide.mpr ⟨this, fun hlt => by omega⟩
    simp only [written, List.filter_nil, List.nil_append, hfilter]
  refine ⟨h.bias, h.first, by rw [hwritten, h.out], h.handled, h.point_le.trans hle, ?_⟩
  have hdistance := h.distance
  show r.point * (p.handled + 1) + r.place + (p.delta + (m - n) * (p.handled + 1)) = _
  obtain ⟨k, rfl⟩ := Nat.exists_eq_add_of_le hle
  rw [Nat.add_sub_cancel_left, ← Nat.add_assoc, hdistance]
  simp only [placeOf, List.filter_nil, List.length_nil]
  ring

/-- From the end of the label to its beginning for the next code point. -/
theorem Abreast.next {r : Reader} (h : Abreast m label [] p r) :
    Abreast (m + 1) [] label { p with delta := p.delta + 1 } r := by
  have hwritten : written (m + 1) [] label = written m label [] := by
    simp only [written, List.filter_nil, List.nil_append, List.append_nil, Nat.lt_succ_iff]
  refine ⟨h.bias, h.first, by rw [hwritten, h.out], h.handled, Nat.le_succ_of_le h.point_le, ?_⟩
  have hdistance := h.distance
  have hplace : placeOf m label = p.handled := by
    rw [h.handled, h.out, written, List.filter_nil, List.append_nil]
    rfl
  show r.point * (p.handled + 1) + r.place + (p.delta + 1) = _
  rw [← Nat.add_assoc, hdistance, hplace]
  simp only [placeOf, List.filter_nil, List.length_nil]
  ring

/-- When all code points have been gone through, the reader has the label. By induction on the code
points, which come in order and leave out no character that has not been written. -/
theorem Abreast.rounds : ∀ {points : List Nat} {n : Nat} {p : Progress} {r : Reader},
    Abreast n [] label p r → points.Pairwise (· < ·) → (∀ m ∈ points, n ≤ m) →
    (∀ c ∈ label, n ≤ c.toNat → c.toNat ∈ points) →
      ∃ r', r'.out = label ∧ Together p (Punycode.rounds label points n p) r r'
  | [], n, p, r, h, _, _, hall => by
    refine ⟨r, ?_, .refl r rfl⟩
    rw [h.out, written, List.filter_nil, List.nil_append, List.filter_eq_self]
    intro c hc
    exact decide_eq_true (Nat.lt_of_not_le fun hle => List.not_mem_nil (hall c hc hle))
  | m :: points, n, p, r, h, hsorted, hfrom, hall => by
    have hlater := (List.pairwise_cons.mp hsorted).1
    have hbetween : ∀ c ∈ label, c.toNat < m → c.toNat < n := by
      intro c hc hlt
      by_contra hle
      rcases List.mem_cons.mp (hall c hc (by omega)) with heq | hmem
      · omega
      · have := hlater _ hmem
        omega
    have habreast := h.advance (hfrom m List.mem_cons_self) hbetween
    obtain ⟨r', h', htogether⟩ := habreast.foldl
    obtain ⟨r'', hlabel, htogether'⟩ :=
      Abreast.rounds h'.next (List.pairwise_cons.mp hsorted).2 hlater fun c hc hle => by
        rcases List.mem_cons.mp (hall c hc (by
          have := hfrom m List.mem_cons_self
          omega)) with heq | hmem
        · omega
        · exact hmem
    exact ⟨r'', hlabel, htogether.trans htogether'⟩

/-! ### Labels -/

/-- The code points beyond ASCII of a label, in order. -/
def pointsOf (label : List Char) : List Nat :=
  ((label.map Char.toNat).filter (fun n => !(n < 0x80))).mergeSort.eraseDups

theorem pairwise_eraseDups {ns : List Nat} (h : ns.Pairwise (· ≤ ·)) :
    ns.eraseDups.Pairwise (· < ·) := by
  match ns with
  | [] => exact .nil
  | n :: ns =>
    obtain ⟨hle, hrest⟩ := List.pairwise_cons.mp h
    rw [List.eraseDups_cons, List.pairwise_cons]
    constructor
    · intro m hm
      rw [List.mem_eraseDups, List.mem_filter] at hm
      have hne : m ≠ n := by simpa using hm.2
      exact Nat.lt_of_le_of_ne (hle m hm.1) hne.symm
    · exact pairwise_eraseDups (hrest.filter _)
termination_by ns.length
decreasing_by
  simp only [List.length_cons]
  exact Nat.lt_succ_of_le (List.length_filter_le _ _)

theorem pairwise_pointsOf (label : List Char) : (pointsOf label).Pairwise (· < ·) := by
  apply pairwise_eraseDups
  have hsorted := @List.pairwise_mergeSort Nat (fun a b => decide (a ≤ b))
    (fun a b c hab hbc => by simp only [decide_eq_true_eq] at *; omega)
    (fun a b => by simp only [Bool.or_eq_true, decide_eq_true_eq]; omega)
    ((label.map Char.toNat).filter (fun n => !(n < 0x80)))
  simpa using hsorted

theorem mem_pointsOf {n : Nat} :
    n ∈ pointsOf label ↔ 0x80 ≤ n ∧ ∃ c ∈ label, c.toNat = n := by
  rw [pointsOf, List.mem_eraseDups, (List.mergeSort_perm _ _).mem_iff, List.mem_filter,
    List.mem_map]
  simp only [Bool.not_eq_true', decide_eq_false_iff_not, Nat.not_lt]
  exact and_comm

/-- The ASCII characters of a label, with the hyphen behind them. -/
def basicOf (label : List Char) : List Char :=
  let basic := label.filter (fun c => c.toNat < 0x80)
  if basic.isEmpty then [] else basic ++ ['-']

/-- The writer before it has written a number. -/
def start (label : List Char) : Progress :=
  { delta := 0, bias := 72, handled := (label.filter (fun c => c.toNat < 0x80)).length,
    first := true, out := basicOf label }

/-- The reader before it has read a number. -/
def beginning (label : List Char) : Reader :=
  { point := 0x80, place := 0, bias := 72, first := true,
    out := label.filter (fun c => c.toNat < 0x80) }

theorem abreast_start (label : List Char) :
    Abreast 0x80 [] label (start label) (beginning label) :=
  ⟨rfl, rfl, by simp [written, beginning], rfl, Nat.le_refl _, by simp [beginning, start, placeOf]⟩

/-- A label is written as its ASCII characters and digits, and the digits stand for the rest. -/
theorem exists_digits (label : List Char) : ∃ digits, encode label = basicOf label ++ digits ∧
    (∀ d ∈ digits, IsDigit d) ∧ (beginning label).read? digits = some label := by
  obtain ⟨r, hlabel, digits, hout, hdigits, hread⟩ := (abreast_start label).rounds
    (pairwise_pointsOf label) (fun m hm => (mem_pointsOf.mp hm).1)
    fun c hc hle => mem_pointsOf.mpr ⟨hle, c, hc, rfl⟩
  refine ⟨digits, hout, hdigits, ?_⟩
  have hall := hread []
  rw [List.append_nil] at hall
  rw [hall, Reader.read?, insertAll?, hlabel]

/-- Digits hold no hyphen, so the last hyphen is the one in front of them. -/
theorem splitNumbers_basicOf {digits : List Char} (hdigits : ∀ d ∈ digits, IsDigit d) :
    splitNumbers (basicOf label ++ digits) = (label.filter (fun c => c.toNat < 0x80), digits) := by
  have hno : ∀ d ∈ digits.reverse, (d != '-') = true := fun d hd => by
    simpa using (hdigits d (List.mem_reverse.mp hd)).ne_hyphen
  rw [basicOf]
  generalize label.filter (fun c => c.toNat < 0x80) = basic
  cases basic with
  | nil =>
    have hrun : digits.reverse.takeWhile (· != '-') = digits.reverse :=
      List.takeWhile_eq_self_iff.mpr hno
    simp [splitNumbers, hrun]
  | cons c cs =>
    have hrun : (c :: cs ++ ['-'] ++ digits).reverse.takeWhile (· != '-') = digits.reverse := by
      rw [List.reverse_append, List.takeWhile_append_of_pos hno, List.reverse_append]
      simp
    have hbasic : (c :: cs ++ ['-'] ++ digits).take
        ((c :: cs ++ ['-'] ++ digits).length - digits.length - 1) = c :: cs := by
      rw [List.append_assoc]
      refine List.take_left' ?_
      simp only [List.length_append, List.length_cons, List.length_nil]
      omega
    simp only [List.isEmpty_cons, Bool.false_eq_true, if_false, splitNumbers, hrun,
      List.reverse_reverse, hbasic]

/-- What a label is written in. -/
theorem mem_encode {d : Char} (h : d ∈ encode label) :
    (d ∈ label ∧ d.toNat < 0x80) ∨ d = '-' ∨ IsDigit d := by
  obtain ⟨digits, hencode, hdigits, -⟩ := exists_digits label
  rw [hencode, List.mem_append] at h
  rcases h with h | h
  · rw [basicOf] at h
    split at h
    · exact absurd h List.not_mem_nil
    · rcases List.mem_append.mp h with h | h
      · exact .inl (by simpa using h)
      · exact .inr (.inl (List.mem_singleton.mp h))
  · exact .inr (.inr (hdigits d h))

theorem toNat_lt_of_mem_encode {d : Char} (h : d ∈ encode label) : d.toNat < 0x80 := by
  rcases mem_encode h with h | rfl | h
  · exact h.2
  · decide
  · exact h.toNat_lt

/-- A label is read back from what it is written as. -/
theorem decode?_encode (label : List Char) : decode? (encode label) = some label := by
  obtain ⟨digits, hencode, hdigits, hread⟩ := exists_digits label
  have hascii : (encode label).all (fun c => c.toNat < 0x80) = true :=
    List.all_eq_true.mpr fun d hd => decide_eq_true (toNat_lt_of_mem_encode hd)
  rw [decode?, hascii, hencode, splitNumbers_basicOf hdigits]
  exact hread

end Tutor.Idna.Punycode
