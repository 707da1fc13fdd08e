import Tutor.Proofs.Idna.Tables
import Tutor.Proofs.Text.Cut

/-!
# Names that stay as they are

Most characters of ASCII, and the Chinese characters, are ordinary: nothing becomes of them in a
domain name, they take no part in composition, they join nothing and turn nothing around. A name of
ordinary characters is taken apart as it stands, and each of its labels may be one.

* `isLabel_of_ordinary` – ordinary characters make up a label.
* `toAscii?_of_labels` – the labels of a name of ordinary characters.
* `toAscii?_of_ordinary` – such a name in ASCII is its own, if no label looks like Punycode.
-/

namespace Tutor.Idna

open Tutor.Text Tutor.Unicode

variable {c : Char} {cs : List Char}

theorem isAscii_iff : isAscii c = true ↔ c.toNat < 0x80 := decide_eq_true_iff

/-- Whether a character is ordinary: a Chinese character, or one of ASCII that is neither a capital
letter nor forbidden. -/
def isOrdinary (c : Char) : Bool :=
  isIdeograph c || (isAscii c && !c.isUpper && !isForbidden c)

theorem isOrdinary_cases (h : isOrdinary c = true) : isIdeograph c = true ∨
    c.toNat < 0x80 ∧ c.isUpper = false ∧ isForbidden c = false := by
  rw [isOrdinary, Bool.or_eq_true, Bool.and_eq_true, Bool.and_eq_true, isAscii_iff,
    Bool.not_eq_true', Bool.not_eq_true', and_assoc] at h
  exact h

theorem isOrdinary_of_ascii (hascii : c.toNat < 0x80) (hsmall : c.isUpper = false)
    (hallowed : isForbidden c = false) : isOrdinary c = true := by
  rw [isOrdinary, isAscii_iff.mpr hascii, hsmall, hallowed]
  exact Bool.or_true _

theorem treatment_of_isOrdinary (h : isOrdinary c = true) : treatment c = .mapped [c] := by
  rcases isOrdinary_cases h with h | ⟨hascii, hsmall, -⟩
  · exact treatment_ideograph h
  · rw [treatment_ascii (isAscii_iff.mpr hascii), toLower_of_not_isUpper hsmall]

theorem isUsable_of_isOrdinary (h : isOrdinary c = true) : isUsable c = true := by
  have hallowed : isForbidden c = false := by
    rcases isOrdinary_cases h with h | ⟨-, -, h⟩
    · rw [isIdeograph_iff] at h
      have hlist : "%#/:<>?@[\\]^|".toList.contains c = false := by
        rw [← Bool.not_eq_true, List.contains_iff_mem]
        intro hc
        have hsmall : "%#/:<>?@[\\]^|".toList.all (fun d => d.toNat < 0x80) = true := by decide
        have := List.all_eq_true.mp hsmall c hc
        simp only [decide_eq_true_eq] at this
        omega
      rw [isForbidden, hlist]
      simp only [Bool.or_false, Bool.or_eq_false_iff, decide_eq_false_iff_not, beq_eq_false_iff_ne]
      omega
    · exact h
  rw [isUsable, treatment_of_isOrdinary h, hallowed]
  simp

theorem parts?_of_isOrdinary (h : isOrdinary c = true) : parts? c = none := by
  rcases isOrdinary_cases h with h | ⟨hascii, -⟩
  · exact parts?_ideograph h
  · by_contra hsome
    obtain ⟨⟨a, b⟩, hsome⟩ := Option.ne_none_iff_exists'.mp hsome
    have := (isOutlying_iff.mp (isOutlying_of_parts? hsome).1).1
    omega

theorem whole?_of_isOrdinary (a : Char) (h : isOrdinary c = true) : whole? a c = none := by
  rcases isOrdinary_cases h with h | ⟨hascii, -⟩
  · exact whole?_ideograph a h
  · by_contra hsome
    obtain ⟨w, hsome⟩ := Option.ne_none_iff_exists'.mp hsome
    have := (isOutlying_iff.mp (isOutlying_of_whole? hsome).2).1
    omega

theorem combiningClass_of_isOrdinary (h : isOrdinary c = true) : combiningClass c = 0 := by
  rcases isOrdinary_cases h with h | ⟨hascii, -⟩
  · exact combiningClass_ideograph h
  · rw [combiningClass, if_pos (by omega)]

theorem isMark_of_isOrdinary (h : isOrdinary c = true) : isMark c = false := by
  rcases isOrdinary_cases h with h | ⟨hascii, -⟩
  · exact isMark_ideograph h
  · have hlow : ¬0x300 ≤ c.toNat := by omega
    rw [isMark, decide_eq_false hlow, Bool.false_and]

theorem turns_of_isOrdinary (h : isOrdinary c = true) : Direction.turns c = false := by
  rcases isOrdinary_cases h with h | ⟨hascii, -⟩
  · exact turns_ideograph h
  · have hlow : ¬0x590 ≤ c.toNat := by omega
    rw [Direction.turns, decide_eq_false hlow, Bool.false_and]

theorem not_joiner_of_isOrdinary (h : isOrdinary c = true) : c ≠ joiner ∧ c ≠ nonJoiner := by
  constructor
  all_goals
    rintro rfl
    revert h
    decide +kernel

/-! ### Texts -/

theorem treated?_of_ordinary (h : ∀ c ∈ cs, isOrdinary c = true) : treated? cs = some cs := by
  induction cs with
  | nil => rfl
  | cons c cs ih =>
    rw [treated?, treatment_of_isOrdinary (h c List.mem_cons_self)]
    dsimp only
    rw [ih fun d hd => h d (.tail c hd)]
    rfl

theorem takenApart_of_isOrdinary (depth : Nat) (h : isOrdinary c = true) :
    takenApart depth c = [c] := by
  cases depth with
  | zero => rfl
  | succ depth => rw [takenApart, parts?_of_isOrdinary h]

theorem flatMap_takenApart_of_ordinary (h : ∀ c ∈ cs, isOrdinary c = true) :
    cs.flatMap (takenApart compositeDepth) = cs := by
  induction cs with
  | nil => rfl
  | cons c cs ih =>
    rw [List.flatMap_cons, takenApart_of_isOrdinary _ (h c List.mem_cons_self),
      ih fun d hd => h d (.tail c hd)]
    rfl

theorem inCanonicalOrder_of_ordinary (h : ∀ c ∈ cs, isOrdinary c = true) :
    inCanonicalOrder cs = cs := by
  induction cs with
  | nil => rfl
  | cons c cs ih =>
    show place c (inCanonicalOrder cs) = c :: cs
    rw [ih fun d hd => h d (.tail c hd)]
    cases cs with
    | nil => rfl
    | cons d ds =>
      have hclass := combiningClass_of_isOrdinary (h d (.tail c List.mem_cons_self))
      rw [place, if_neg (by omega)]

theorem composedFrom_of_ordinary {start : Char} (h : ∀ c ∈ cs, isOrdinary c = true) :
    composedFrom start [] cs = start :: cs := by
  induction cs generalizing start with
  | nil => rfl
  | cons c cs ih =>
    have hc := h c List.mem_cons_self
    rw [composedFrom.eq_def]
    simp only [if_true, whole?_of_isOrdinary start hc, combiningClass_of_isOrdinary hc]
    rw [ih fun d hd => h d (.tail c hd)]
    rfl

theorem composed_of_ordinary (h : ∀ c ∈ cs, isOrdinary c = true) : composed cs = cs := by
  rw [composed]
  split
  · rfl
  · rw [flatMap_takenApart_of_ordinary h, inCanonicalOrder_of_ordinary h]
    cases cs with
    | nil => rfl
    | cons c cs => exact composedFrom_of_ordinary fun d hd => h d (.tail c hd)

theorem joinersFit_of_ordinary {before : List Char} (h : ∀ c ∈ cs, isOrdinary c = true) :
    joinersFit before cs = true := by
  induction cs generalizing before with
  | nil => rfl
  | cons c cs ih =>
    obtain ⟨hjoiner, hnonJoiner⟩ := not_joiner_of_isOrdinary (h c List.mem_cons_self)
    rw [joinersFit, ih fun d hd => h d (.tail c hd), beq_false_of_ne hjoiner,
      beq_false_of_ne hnonJoiner]
    rfl

/-- Ordinary characters make up a label. -/
theorem isLabel_of_ordinary (h : ∀ c ∈ cs, isOrdinary c = true) : isLabel cs = true := by
  have husable : cs.all isUsable = true :=
    List.all_eq_true.mpr fun c hc => isUsable_of_isOrdinary (h c hc)
  have hmark : cs.head?.any isMark = false := by
    cases cs with
    | nil => rfl
    | cons c cs => exact isMark_of_isOrdinary (h c List.mem_cons_self)
  rw [isLabel, husable, composed_of_ordinary h, hmark, joinersFit_of_ordinary h]
  simp

/-! ### Names -/

theorem suitAll_of_ordinary {labels : List (List Char)}
    (h : ∀ cs ∈ labels, ∀ c ∈ cs, isOrdinary c = true) : Direction.suitAll labels = true := by
  have hturns : labels.any (·.any Direction.turns) = false :=
    List.any_eq_false.mpr fun cs hcs => by
      rw [Bool.not_eq_true]
      exact List.any_eq_false.mpr fun c hc => by
        rw [turns_of_isOrdinary (h cs hcs c hc)]
        exact Bool.false_ne_true
  rw [Direction.suitAll, hturns]
  rfl

/-- A name of ordinary characters falls into labels as it stands. -/
theorem toAscii?_of_labels {written : List Char → List Char} (h : ∀ c ∈ cs, isOrdinary c = true)
    (hlabel : ∀ part ∈ splitWhere (· == '.') cs,
      Label.ofChars? part = some { shown := part, written := written part }) :
    toAscii? cs = some (joinWith ['.'] ((splitWhere (· == '.') cs).map written)) := by
  have hsuit : Direction.suitAll (splitWhere (· == '.') cs) = true :=
    suitAll_of_ordinary fun part hpart c hc =>
      h c ((isInfix_of_mem_splitWhere hpart).subset hc)
  rw [toAscii?, labels?, treated?_of_ordinary h, Option.bind_eq_bind, Option.bind_some,
    composed_of_ordinary h, mapM_eq_some_of_forall hlabel, Option.bind_eq_bind, Option.bind_some,
    List.map_map]
  simp only [Function.comp_def, List.map_id', hsuit, if_true, Option.map_some, List.map_map]

/-- A name of ordinary characters in ASCII is its own, if no label of it looks like Punycode. -/
theorem toAscii?_of_ordinary (h : ∀ c ∈ cs, isOrdinary c = true) (hascii : ∀ c ∈ cs, c.toNat < 0x80)
    (hmark : ∀ part ∈ splitWhere (· == '.') cs, after? mark part = none) :
    toAscii? cs = some cs := by
  have hlabel : ∀ part ∈ splitWhere (· == '.') cs,
      Label.ofChars? part = some { shown := part, written := part } := by
    intro part hpart
    have hsubset := (isInfix_of_mem_splitWhere hpart).subset
    have hall : part.all isAscii = true := List.all_eq_true.mpr fun c hc =>
      isAscii_iff.mpr (hascii c (hsubset hc))
    rw [Label.ofChars?, hmark part hpart]
    dsimp only
    rw [Label.ofPlain?, isLabel_of_ordinary fun c hc => h c (hsubset hc), hall]
    rfl
  rw [toAscii?_of_labels h hlabel, List.map_id', joinWith_splitWhere]

end Tutor.Idna
