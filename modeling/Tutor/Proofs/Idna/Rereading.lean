import Tutor.Proofs.Idna.Domain
import Tutor.Proofs.Idna.Ordinary
import Tutor.Proofs.Idna.Punycode

/-!
# Domain names read again

A domain name in ASCII is what it was made from, so it should be brought into ASCII as itself. Two
things could stand in the way. Capital letters would become small; but no character is replaced by
one, and where a character taken apart begins with one, what follows it is beyond ASCII, which keeps
the label that it stands in out of ASCII. And Punycode is read up to a limit only, which what is
written in Punycode can exceed.

* `shielded_composed` – what follows a capital letter in a composed text.
* `ofChars?_written` – a label is read again, unless it is too long.
* `toAscii?_of_toAscii?` – so is a name, unless one of its labels is too long.
-/

namespace Tutor.Unicode

open Tutor.Text

variable {c d : Char} {cs as bs : List Char}

/-! ### Capital letters in composed text -/

/-- Every capital letter of ASCII has a character beyond ASCII behind it. -/
def Shielded : List Char → Prop
  | [] => True
  | c :: cs => (c.isUpper = true → ∃ d ∈ cs.head?, 0x80 ≤ d.toNat) ∧ Shielded cs

theorem not_isUpper_of_le (h : 0x80 ≤ c.toNat) : c.isUpper = false := by
  rw [← Bool.not_eq_true, isUpper_iff]
  omega

theorem Shielded.cons (hc : c.isUpper = false) (h : Shielded cs) : Shielded (c :: cs) :=
  ⟨fun hupper => absurd hupper (by rw [hc]; exact Bool.false_ne_true), h⟩

theorem shielded_of_forall (h : ∀ c ∈ cs, c.isUpper = false) : Shielded cs := by
  induction cs with
  | nil => trivial
  | cons c cs ih => exact .cons (h c List.mem_cons_self) (ih fun d hd => h d (.tail c hd))

theorem Shielded.append (has : Shielded as) (hbs : Shielded bs) : Shielded (as ++ bs) := by
  induction as with
  | nil => exact hbs
  | cons c as ih =>
    refine ⟨fun hc => ?_, ih has.2⟩
    obtain ⟨d, hd, hbeyond⟩ := has.1 hc
    refine ⟨d, ?_, hbeyond⟩
    show d ∈ (as ++ bs).head?
    rw [List.head?_append, Option.mem_def.mp hd]
    rfl

/-- What has no capital letters in it can be left out in front. -/
theorem Shielded.of_append (h : Shielded (as ++ bs)) : Shielded bs := by
  induction as with
  | nil => exact h
  | cons c as ih => exact ih h.2

theorem toNat_lt_of_isUpper (h : c.isUpper = true) : c.toNat < 0x80 := by
  rw [isUpper_iff] at h
  omega

/-- A character beyond ASCII, or a small one, may begin with a capital letter when it is taken
apart, but then something was added to that letter. -/
theorem shielded_takenApart (depth : Nat) : ∀ {c : Char}, c.isUpper = false →
    Shielded (takenApart depth c) := by
  induction depth with
  | zero => exact fun hc => .cons hc trivial
  | succ depth ih =>
    intro c hc
    rw [takenApart]
    split
    next a b hparts =>
      have hb := (isOutlying_iff.mp (isOutlying_of_parts? hparts).2).1
      have hlast : Shielded [b] := .cons (not_isUpper_of_le hb) trivial
      by_cases ha : a.isUpper = true
      · have hwhole : takenApart depth a = [a] := by
          cases depth with
          | zero => rfl
          | succ depth =>
            have hnone : parts? a = none := by
              by_contra hsome
              obtain ⟨⟨a', b'⟩, hsome⟩ := Option.ne_none_iff_exists'.mp hsome
              have hbeyond := (isOutlying_iff.mp (isOutlying_of_parts? hsome).1).1
              have := toNat_lt_of_isUpper ha
              omega
            rw [takenApart, hnone]
        rw [hwhole]
        exact ⟨fun _ => ⟨b, rfl, hb⟩, hlast⟩
      · rw [Bool.not_eq_true] at ha
        exact (ih ha).append hlast
    next => exact .cons hc trivial

theorem shielded_flatMap_takenApart (depth : Nat) (h : ∀ c ∈ cs, c.isUpper = false) :
    Shielded (cs.flatMap (takenApart depth)) := by
  induction cs with
  | nil => trivial
  | cons c cs ih =>
    rw [List.flatMap_cons]
    exact (shielded_takenApart depth (h c List.mem_cons_self)).append
      (ih fun d hd => h d (.tail c hd))

theorem combiningClass_of_isUpper (h : c.isUpper = true) : combiningClass c = 0 := by
  have := toNat_lt_of_isUpper h
  rw [combiningClass, if_pos (by omega)]

theorem le_of_combiningClass (h : 0 < combiningClass c) : 0x80 ≤ c.toNat := by
  by_contra hlt
  rw [combiningClass, if_pos (by omega)] at h
  exact Nat.lt_irrefl 0 h

/-- A mark that is put behind others leaves the first character beyond ASCII, if that is where it
was. -/
theorem exists_head?_place (hc : 0x80 ≤ c.toNat) (cs : List Char) :
    ∃ d ∈ (place c cs).head?, 0x80 ≤ d.toNat := by
  cases cs with
  | nil => exact ⟨c, rfl, hc⟩
  | cons d ds =>
    rw [place]
    split
    next hclass => exact ⟨d, rfl, le_of_combiningClass hclass.1⟩
    next => exact ⟨c, rfl, hc⟩

theorem Shielded.place (hc : c.isUpper = true → ∃ d ∈ cs.head?, 0x80 ≤ d.toNat)
    (h : Shielded cs) : Shielded (place c cs) := by
  induction cs with
  | nil => exact ⟨hc, trivial⟩
  | cons d ds ih =>
    rw [Unicode.place]
    split
    next hclass =>
      have hd := not_isUpper_of_le (le_of_combiningClass hclass.1)
      have hsmall : c.isUpper = false := by
        rw [← Bool.not_eq_true]
        intro hupper
        rw [combiningClass_of_isUpper hupper] at hclass
        omega
      refine .cons hd (ih (fun hupper => ?_) h.2)
      rw [hsmall] at hupper
      cases hupper
    next => exact ⟨hc, h⟩

/-- The canonical order moves marks only, and a capital letter is none. -/
theorem Shielded.inCanonicalOrder (h : Shielded cs) : Shielded (inCanonicalOrder cs) := by
  induction cs with
  | nil => trivial
  | cons c cs ih =>
    refine Shielded.place (fun hc => ?_) (ih h.2)
    obtain ⟨d, hd, hbeyond⟩ := h.1 hc
    cases cs with
    | nil => cases hd
    | cons e cs =>
      cases hd
      exact exists_head?_place hbeyond _

/-- Whether a character can be put together with the one that everything skipped came after. -/
def isFree (skipped : List Char) (c : Char) : Bool :=
  match skipped with
  | [] => true
  | d :: _ => combiningClass d < combiningClass c

theorem composedFrom_cons (start : Char) (skipped : List Char) (c : Char) (cs : List Char) :
    composedFrom start skipped (c :: cs) =
      match if isFree skipped c then whole? start c else none with
      | some whole => composedFrom whole skipped cs
      | none =>
        if combiningClass c = 0 then start :: skipped.reverse ++ composedFrom c [] cs
        else composedFrom start (c :: skipped) cs := by
  rw [composedFrom.eq_def]
  rfl

theorem exists_head?_composedFrom : ∀ {cs skipped : List Char} {start : Char},
    0x80 ≤ start.toNat → ∃ d ∈ (composedFrom start skipped cs).head?, 0x80 ≤ d.toNat
  | [], skipped, start, h => ⟨start, rfl, h⟩
  | c :: cs, skipped, start, h => by
    rw [composedFrom_cons]
    split
    next whole hwhole =>
      split at hwhole
      next =>
        exact exists_head?_composedFrom (isOutlying_iff.mp (isOutlying_of_whole? hwhole).1).1
      next => cases hwhole
    next =>
      split
      · exact ⟨start, rfl, h⟩
      · exact exists_head?_composedFrom h

theorem shielded_reverse {skipped : List Char} (hskipped : ∀ d ∈ skipped, 0 < combiningClass d) :
    Shielded skipped.reverse :=
  shielded_of_forall fun d hd =>
    not_isUpper_of_le (le_of_combiningClass (hskipped d (List.mem_reverse.mp hd)))

/-- Putting together takes marks away. A letter that loses the one behind it has become a composite
by that, and no capital letter of ASCII is one. -/
theorem Shielded.composedFrom : ∀ {cs skipped : List Char} {start : Char},
    (∀ d ∈ skipped, 0 < combiningClass d) → Shielded (start :: (skipped.reverse ++ cs)) →
      Shielded (composedFrom start skipped cs)
  | [], skipped, start, _, h => by rwa [List.append_nil] at h
  | c :: cs, skipped, start, hskipped, h => by
    rw [composedFrom_cons]
    split
    next whole hwhole =>
      split at hwhole
      next =>
        have hbeyond := (isOutlying_iff.mp (isOutlying_of_whole? hwhole).1).1
        have hrest : Shielded cs := (Shielded.of_append h.2).2
        exact Shielded.composedFrom hskipped
          (.cons (not_isUpper_of_le hbeyond) ((shielded_reverse hskipped).append hrest))
      next => cases hwhole
    next =>
      split
      next hclass =>
        have hrest : Shielded (Unicode.composedFrom c [] cs) :=
          Shielded.composedFrom (fun d hd => absurd hd List.not_mem_nil) (Shielded.of_append h.2)
        refine ⟨fun hstart => ?_, (shielded_reverse hskipped).append hrest⟩
        obtain ⟨d, hd, hbeyond⟩ := h.1 hstart
        cases hreverse : skipped.reverse with
        | nil =>
          rw [hreverse] at hd
          cases hd
          exact exists_head?_composedFrom hbeyond
        | cons e es =>
          rw [hreverse] at hd
          exact ⟨d, hd, hbeyond⟩
      next hclass =>
        have hmarks : ∀ d ∈ c :: skipped, 0 < combiningClass d :=
          List.forall_mem_cons.mpr ⟨Nat.pos_of_ne_zero hclass, hskipped⟩
        refine Shielded.composedFrom hmarks ?_
        rw [List.reverse_cons, List.append_assoc]
        exact h

/-- In a composed text, what follows a capital letter of ASCII is beyond ASCII, if there were no
capital letters before. -/
theorem shielded_composed (h : ∀ c ∈ cs, c.isUpper = false) : Shielded (composed cs) := by
  rw [composed]
  split
  · exact shielded_of_forall h
  · have hordered := (shielded_flatMap_takenApart compositeDepth h).inCanonicalOrder
    split
    next => trivial
    next c rest hcs =>
      rw [hcs] at hordered
      exact Shielded.composedFrom (fun d hd => absurd hd List.not_mem_nil) hordered

/-- A dot is ASCII, so no capital letter stands in front of one. -/
theorem shielded_of_mem_splitWhere {part : List Char} (h : Shielded cs)
    (hpart : part ∈ splitWhere (· == '.') cs) : Shielded part := by
  induction cs generalizing part with
  | nil =>
    obtain rfl := List.mem_singleton.mp hpart
    trivial
  | cons c cs ih =>
    obtain ⟨first, parts, hsplit⟩ := List.exists_cons_of_ne_nil (splitWhere_ne_nil (· == '.') cs)
    rw [splitWhere, hsplit] at hpart
    rw [hsplit] at ih
    split at hpart
    · rcases List.mem_cons.mp hpart with rfl | hpart
      · trivial
      · exact ih h.2 hpart
    · rcases List.mem_cons.mp hpart with rfl | hpart
      · refine ⟨fun hc => ?_, ih h.2 List.mem_cons_self⟩
        -- The character behind the capital letter is no dot, so it is in the same part.
        obtain ⟨d, hd, hbeyond⟩ := h.1 hc
        cases cs with
        | nil => cases hd
        | cons e cs =>
          have he : e = d := Option.some.inj hd
          subst he
          have hdot : ¬(e == '.') = true := by
            rw [beq_iff_eq]
            rintro rfl
            exact absurd hbeyond (by decide)
          obtain ⟨first', parts', hsplit'⟩ :=
            List.exists_cons_of_ne_nil (splitWhere_ne_nil (· == '.') cs)
          rw [splitWhere, if_neg hdot, hsplit'] at hsplit
          obtain ⟨rfl, -⟩ := List.cons.inj hsplit
          exact ⟨e, rfl, hbeyond⟩
      · exact ih h.2 (List.mem_cons_of_mem _ hpart)

/-- In ASCII nothing can stand behind a capital letter. -/
theorem Shielded.not_isUpper (h : Shielded cs) (hascii : ∀ c ∈ cs, c.toNat < 0x80) (hc : c ∈ cs) :
    c.isUpper = false := by
  induction cs with
  | nil => cases hc
  | cons d cs ih =>
    rcases List.mem_cons.mp hc with rfl | hc
    · rw [← Bool.not_eq_true]
      intro hupper
      obtain ⟨e, he, hbeyond⟩ := h.1 hupper
      have := hascii e (List.mem_cons_of_mem _ (List.mem_of_mem_head? he))
      omega
    · exact ih h.2 (fun d hd => hascii d (List.mem_cons_of_mem _ hd)) hc

end Tutor.Unicode

namespace Tutor.Idna

open Tutor.Text Tutor.Unicode

variable {c : Char} {cs text : List Char}

/-! ### Labels -/

/-- The three ways in which a label comes: in Punycode, in ASCII as it is shown, or beyond ASCII. -/
theorem label_cases {l : Label} (h : Label.ofChars? cs = some l) :
    (∃ code, cs = mark ++ code ∧ (∀ c ∈ cs, isAscii c = true) ∧ l.written = cs ∧
      Label.ofEncoded? code = some l) ∨
    (after? mark cs = none ∧ isLabel cs = true ∧
      ((∀ c ∈ cs, isAscii c = true) ∧ l = { shown := cs, written := cs } ∨
        cs.any (!isAscii ·) = true ∧
          l = { shown := cs, written := mark ++ Punycode.encode cs })) := by
  rw [Label.ofChars?] at h
  split at h
  next code hcode =>
    rw [after?_eq_some_iff] at hcode
    split at h
    next hascii =>
      refine .inl ⟨code, hcode, List.all_eq_true.mp hascii, ?_, h⟩
      simp only [Label.ofEncoded?, Option.bind_eq_bind, Option.bind_eq_some_iff] at h
      obtain ⟨shown, -, h⟩ := h
      split at h
      next =>
        obtain rfl := Option.some.inj h
        exact hcode.symm
      next => cases h
    next => cases h
  next hcode =>
    rw [Label.ofPlain?] at h
    split at h
    next => cases h
    next hlabel =>
      refine .inr ⟨hcode, by simpa using hlabel, ?_⟩
      split at h
      next hascii =>
        exact .inl ⟨List.all_eq_true.mp hascii, (Option.some.inj h).symm⟩
      next hascii =>
        refine .inr ⟨by simpa using hascii, ?_⟩
        dsimp only at h
        split at h
        next => exact (Option.some.inj h).symm
        next => cases h

theorem not_isUpper_of_mem_label (h : isLabel cs = true) (hc : c ∈ cs) : c.isUpper = false := by
  simp only [isLabel, Bool.and_eq_true, List.all_eq_true] at h
  have husable := h.1.1.1 c hc
  rw [isUsable, Bool.and_eq_true, beq_iff_eq] at husable
  exact not_isUpper_of_treatment husable.1 (List.mem_singleton_self c)

/-- What a label is written in: ASCII without capital letters, and no dot. -/
structure IsSettled (cs : List Char) : Prop where
  ascii : ∀ c ∈ cs, isAscii c = true
  small : ∀ c ∈ cs, c.isUpper = false
  dotless : ∀ c ∈ cs, (c == '.') = false

theorem isSettled_mark_append {cs : List Char} (h : IsSettled cs) : IsSettled (mark ++ cs) := by
  have hmark : IsSettled mark := by
    have hall : mark.all (fun c => isAscii c && !c.isUpper && !(c == '.')) = true := by decide
    simp only [List.all_eq_true, Bool.and_eq_true, Bool.not_eq_true'] at hall
    exact ⟨fun c hc => (hall c hc).1.1, fun c hc => (hall c hc).1.2, fun c hc => (hall c hc).2⟩
  constructor
  · exact fun c hc => (List.mem_append.mp hc).elim (hmark.ascii c) (h.ascii c)
  · exact fun c hc => (List.mem_append.mp hc).elim (hmark.small c) (h.small c)
  · exact fun c hc => (List.mem_append.mp hc).elim (hmark.dotless c) (h.dotless c)

theorem isSettled_encode (hlabel : isLabel cs = true) (hdotless : ∀ c ∈ cs, (c == '.') = false) :
    IsSettled (Punycode.encode cs) := by
  constructor
  · exact fun c hc => isAscii_iff.mpr (Punycode.toNat_lt_of_mem_encode hc)
  · intro c hc
    rcases Punycode.mem_encode hc with hc | rfl | hc
    · exact not_isUpper_of_mem_label hlabel hc.1
    · decide
    · exact hc.not_isUpper
  · intro c hc
    rcases Punycode.mem_encode hc with hc | rfl | hc
    · exact hdotless c hc.1
    · decide
    · exact hc.ne_dot

theorem isSettled_written {l : Label} (h : Label.ofChars? cs = some l) (hshielded : Shielded cs)
    (hdotless : ∀ c ∈ cs, (c == '.') = false) : IsSettled l.written := by
  have hsmall (hascii : ∀ c ∈ cs, isAscii c = true) : ∀ c ∈ cs, c.isUpper = false := fun c hc =>
    hshielded.not_isUpper (fun d hd => isAscii_iff.mp (hascii d hd)) hc
  rcases label_cases h with ⟨code, -, hascii, hwritten, -⟩ | ⟨-, hlabel, ⟨hascii, rfl⟩ | ⟨-, rfl⟩⟩
  · rw [hwritten]
    exact ⟨hascii, hsmall hascii, hdotless⟩
  · exact ⟨hascii, hsmall hascii, hdotless⟩
  · exact isSettled_mark_append (isSettled_encode hlabel hdotless)

/-- Whether a label in ASCII is short enough to be read. -/
def isReadable (cs : List Char) : Bool :=
  match after? mark cs with
  | some code => code.length ≤ maxDecoded
  | none => true

/-- A label is read again from what it is written as, unless that is too long. -/
theorem ofChars?_written {l : Label} (h : Label.ofChars? cs = some l) :
    Label.ofChars? l.written = if isReadable l.written then some l else none := by
  rcases label_cases h with
    ⟨code, rfl, -, hwritten, hencoded⟩ | ⟨hnone, hlabel, ⟨hascii, rfl⟩ | ⟨hbeyond, rfl⟩⟩
  · have hafter : after? mark (mark ++ code) = some code := after?_eq_some_iff.mpr rfl
    have hshort : isReadable (mark ++ code) = true := by
      simp only [Label.ofEncoded?, Option.bind_eq_bind, Option.bind_eq_some_iff] at hencoded
      obtain ⟨shown, -, hchecked⟩ := hencoded
      split at hchecked
      next hlimits =>
        simp only [Bool.and_eq_true] at hlimits
        rw [isReadable, hafter]
        exact hlimits.1.1
      next => cases hchecked
    rw [hwritten, hshort, h]
    rfl
  · have hshort : isReadable cs = true := by rw [isReadable, hnone]
    rw [hshort, h]
    rfl
  · have hafter : after? mark (mark ++ Punycode.encode cs) = some (Punycode.encode cs) :=
      after?_eq_some_iff.mpr rfl
    have hascii : (mark ++ Punycode.encode cs).all isAscii = true := by
      refine List.all_eq_true.mpr fun c hc => ?_
      rcases List.mem_append.mp hc with hc | hc
      · exact List.all_eq_true.mp (show mark.all isAscii = true from rfl) c hc
      · exact isAscii_iff.mpr (Punycode.toNat_lt_of_mem_encode hc)
    rw [Label.ofChars?]
    simp only [hafter, hascii, if_true, Label.ofEncoded?, Punycode.decode?_encode, hbeyond, hlabel,
      Bool.and_true, Option.bind_eq_bind, Option.bind_some, isReadable]

/-! ### Names -/

theorem not_isUpper_of_treated? (h : treated? cs = some text) (hc : c ∈ text) :
    c.isUpper = false := by
  induction cs generalizing text with
  | nil =>
    obtain rfl := Option.some.inj h
    cases hc
  | cons d cs ih =>
    rw [treated?] at h
    split at h
    next ds hmapped =>
      obtain ⟨more, hmore, rfl⟩ := Option.map_eq_some_iff.mp h
      rcases List.mem_append.mp hc with hc | hc
      · exact not_isUpper_of_treatment hmapped hc
      · exact ih hmore hc
    next => exact ih h hc
    next => cases h

/-- Labels that were read are read again, each for itself. -/
theorem mapM_ofChars?_written : ∀ {parts : List (List Char)} {labels : List Label},
    parts.mapM Label.ofChars? = some labels →
      (labels.map (·.written)).mapM Label.ofChars? =
        if (labels.map (·.written)).all isReadable then some labels else none
  | [], labels, h => by
    obtain rfl := Option.some.inj h
    rfl
  | part :: parts, labels, h => by
    simp only [List.mapM_cons, Option.bind_eq_bind, Option.bind_eq_some_iff] at h
    obtain ⟨l, hl, more, hmore, heq⟩ := h
    obtain rfl := Option.some.inj heq
    rw [List.map_cons, List.mapM_cons, ofChars?_written hl, mapM_ofChars?_written hmore,
      List.all_cons]
    cases isReadable l.written
    · rfl
    · cases (more.map (·.written)).all isReadable <;> rfl

/-- What a name was made of. -/
theorem exists_labels {ascii : List Char} (h : toAscii? cs = some ascii) :
    ∃ (labels : List Label) (parts : List (List Char)),
      parts.mapM Label.ofChars? = some labels ∧ labels ≠ [] ∧
      Direction.suitAll (labels.map (·.shown)) = true ∧
      ascii = joinWith ['.'] (labels.map (·.written)) ∧
      ∀ l ∈ labels, IsSettled l.written := by
  simp only [toAscii?, labels?, Option.bind_eq_bind, Option.map_eq_some_iff,
    Option.bind_eq_some_iff] at h
  obtain ⟨labels, ⟨text, htext, labels', hlabels, hsuit⟩, rfl⟩ := h
  split at hsuit
  next hsuits =>
    obtain rfl := Option.some.inj hsuit
    have hshielded := shielded_composed fun c hc => not_isUpper_of_treated? htext hc
    refine ⟨_, _, hlabels, ?_, hsuits, rfl, fun l hl => ?_⟩
    · rintro rfl
      obtain ⟨part, parts, hparts⟩ :=
        List.exists_cons_of_ne_nil (splitWhere_ne_nil (· == '.') (composed text))
      rw [hparts] at hlabels
      simp only [List.mapM_cons, Option.bind_eq_bind, Option.bind_eq_some_iff] at hlabels
      obtain ⟨l, -, more, -, heq⟩ := hlabels
      cases heq
    · obtain ⟨part, hpart, hof⟩ := mem_of_mapM hlabels hl
      exact isSettled_written hof (shielded_of_mem_splitWhere hshielded hpart)
        fun c hc => not_of_mem_splitWhere (p := (· == '.')) hpart hc
  next => cases hsuit

/-- A domain name in ASCII is brought into ASCII as itself, unless a label of it is too long to be
read. -/
theorem toAscii?_of_toAscii? {ascii : List Char} (h : toAscii? cs = some ascii) :
    toAscii? ascii =
      if (splitWhere (· == '.') ascii).all isReadable then some ascii else none := by
  obtain ⟨labels, parts, hlabels, hne, hsuit, hascii, hsettled⟩ := exists_labels h
  have hsplit : splitWhere (· == '.') ascii = labels.map (·.written) := by
    rw [hascii]
    refine splitWhere_joinWith (by decide) (by simpa using hne) fun part hpart => ?_
    obtain ⟨l, hl, rfl⟩ := List.mem_map.mp hpart
    exact (hsettled l hl).dotless
  have hordinary : ∀ c ∈ ascii, isOrdinary c = true := by
    intro c hc
    have hallowed := isForbidden_of_mem_toAscii? h hc
    rw [hascii] at hc
    rcases mem_joinWith hc with hc | ⟨part, hpart, hc⟩
    · obtain rfl := List.mem_singleton.mp hc
      decide
    · obtain ⟨l, hl, rfl⟩ := List.mem_map.mp hpart
      exact isOrdinary_of_ascii (isAscii_iff.mp ((hsettled l hl).ascii c hc))
        ((hsettled l hl).small c hc) hallowed
  rw [toAscii?, labels?, treated?_of_ordinary hordinary, Option.bind_eq_bind, Option.bind_some,
    composed_of_ordinary hordinary, hsplit, mapM_ofChars?_written hlabels]
  cases (labels.map (·.written)).all isReadable
  · rfl
  · simp only [if_true, Option.bind_eq_bind, Option.bind_some, hsuit, Option.map_some, hascii]

end Tutor.Idna
