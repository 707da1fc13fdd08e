import Mathlib.Data.List.Basic
import Tutor.Text.Blank

/-!
# Trimming

A trimmed text neither begins nor ends with a blank, and trimming it again changes nothing.

* `dropTrailing_append` – a text is what is kept of it and a run behind that.
* `isTrimmed_trim`, `isTrimmed_iff` – when a text is trimmed.
* `exists_trim`, `solid_trim`, `flatMap_solid_trimmed` – only blanks are dropped.
* `trimmed_eq_empty_iff` – when nothing is left.
* `Filled`, `filled_of_nonEmpty?` – texts that say something.
* `trim_append_left`, `trim_append_right` – blanks around a text.
-/

namespace Tutor.Text

variable {p : Char → Bool} {cs : List Char}

/-- A text without blanks around it. -/
structure IsTrimmed (cs : List Char) : Prop where
  head : ∀ c ∈ cs.head?, isBlank c = false
  last : ∀ c ∈ cs.getLast?, isBlank c = false

theorem dropTrailing_append (p : Char → Bool) (cs : List Char) :
    ∃ run, cs = dropTrailing p cs ++ run ∧ ∀ c ∈ run, p c = true := by
  refine ⟨(cs.reverse.takeWhile p).reverse, ?_, fun c hc => ?_⟩
  · rw [dropTrailing, ← List.reverse_append, List.takeWhile_append_dropWhile, List.reverse_reverse]
  · exact List.all_eq_true.mp List.all_takeWhile c (List.mem_reverse.mp hc)

theorem not_of_mem_head?_dropWhile {c : Char} (h : c ∈ (cs.dropWhile p).head?) : p c = false := by
  have hhead := List.head?_dropWhile_not p cs
  rw [Option.mem_def.mp h] at hhead
  exact hhead

/-- What is kept of a text begins as the text does. -/
theorem mem_head?_of_dropTrailing {c : Char} (h : c ∈ (dropTrailing p cs).head?) :
    c ∈ cs.head? := by
  obtain ⟨run, hsplit, -⟩ := dropTrailing_append p cs
  cases hkept : dropTrailing p cs with
  | nil => rw [hkept] at h; cases h
  | cons d kept =>
    rw [hkept] at h hsplit
    rw [hsplit]
    exact h

/-- What is kept of a text ends with a character of another kind. -/
theorem exists_getLast?_dropTrailing (h : dropTrailing p cs ≠ []) :
    ∃ c ∈ (dropTrailing p cs).getLast?, p c = false := by
  rw [dropTrailing] at h ⊢
  rw [List.getLast?_reverse]
  cases hrest : cs.reverse.dropWhile p with
  | nil =>
    rw [hrest] at h
    exact absurd rfl h
  | cons c more =>
    refine ⟨c, rfl, ?_⟩
    exact not_of_mem_head?_dropWhile (Option.mem_def.mpr (by rw [hrest]; rfl))

/-- If nothing is kept of a text, all of it is of one kind. -/
theorem forall_of_dropTrailing_eq_nil (h : dropTrailing p cs = []) :
    ∀ c ∈ cs, p c = true := by
  obtain ⟨run, hsplit, hrun⟩ := dropTrailing_append p cs
  rw [h, List.nil_append] at hsplit
  rw [hsplit]
  exact hrun

theorem dropTrailing_eq_self (h : ∀ c ∈ cs.getLast?, p c = false) : dropTrailing p cs = cs := by
  cases hcs : cs.reverse with
  | nil =>
    obtain rfl : cs = [] := List.reverse_eq_nil_iff.mp hcs
    rfl
  | cons c more =>
    have hc : p c = false := by
      refine h c ?_
      rw [List.getLast?_eq_head?_reverse, hcs]
      rfl
    rw [dropTrailing, hcs, List.dropWhile_cons, if_neg (by simp [hc]), ← hcs, List.reverse_reverse]

theorem dropWhile_eq_self (h : ∀ c ∈ cs.head?, p c = false) : cs.dropWhile p = cs := by
  cases cs with
  | nil => rfl
  | cons c cs => rw [List.dropWhile_cons, if_neg (by simp [h c rfl])]

theorem isTrimmed_trim (cs : List Char) : IsTrimmed (trim cs) where
  head c hc := not_of_mem_head?_dropWhile (mem_head?_of_dropTrailing hc)
  last c hc := by
    rw [trim, strip, dropTrailing, List.getLast?_reverse] at hc
    exact not_of_mem_head?_dropWhile hc

theorem trim_eq_self (h : IsTrimmed cs) : trim cs = cs := by
  rw [trim, strip, dropWhile_eq_self h.head, dropTrailing_eq_self h.last]

theorem isTrimmed_iff : IsTrimmed cs ↔ trim cs = cs := by
  constructor
  · exact trim_eq_self
  · intro h
    rw [← h]
    exact isTrimmed_trim cs

theorem trimmed_trimmed (s : String) : trimmed (trimmed s) = trimmed s := by
  rw [trimmed, trimmed, String.toList_ofList, trim_eq_self (isTrimmed_trim _)]

/-- Trimmed parts around anything are trimmed together. -/
theorem IsTrimmed.append {as bs : List Char} (has : IsTrimmed as) (hbs : IsTrimmed bs)
    (hne : as ≠ []) (hne' : bs ≠ []) (sep : List Char) : IsTrimmed (as ++ (sep ++ bs)) := by
  refine ⟨fun c hc => has.head c ?_, fun c hc => hbs.last c ?_⟩
  · rwa [List.head?_append_of_ne_nil _ hne] at hc
  · have hrest : sep ++ bs ≠ [] := by simp [hne']
    rwa [List.getLast?_append_of_ne_nil _ hrest, List.getLast?_append_of_ne_nil _ hne'] at hc

/-! ### What is not blank -/

/-- The characters of a text that are not blank. -/
def solid (cs : List Char) : List Char := cs.filter fun c => !isBlank c

theorem exists_trim (cs : List Char) : ∃ front back, cs = front ++ (trim cs ++ back) ∧
    (∀ c ∈ front, isBlank c = true) ∧ ∀ c ∈ back, isBlank c = true := by
  obtain ⟨back, hsplit, hback⟩ := dropTrailing_append isBlank (cs.dropWhile isBlank)
  refine ⟨cs.takeWhile isBlank, back, ?_, ?_, hback⟩
  · rw [trim, strip, ← hsplit, List.takeWhile_append_dropWhile]
  · exact List.all_eq_true.mp List.all_takeWhile

/-- Blanks in front of a text do not matter to what is left of it. -/
theorem trim_append_left {front : List Char} (h : ∀ c ∈ front, isBlank c = true)
    (cs : List Char) : trim (front ++ cs) = trim cs := by
  rw [trim, trim, strip, strip, List.dropWhile_append_of_pos h]

theorem dropTrailing_append_right {back : List Char} (h : ∀ c ∈ back, p c = true)
    (cs : List Char) : dropTrailing p (cs ++ back) = dropTrailing p cs := by
  rw [dropTrailing, List.reverse_append,
    List.dropWhile_append_of_pos fun c hc => h c (List.mem_reverse.mp hc), ← dropTrailing]

/-- Nor do blanks behind it. -/
theorem trim_append_right {back : List Char} (h : ∀ c ∈ back, isBlank c = true)
    (cs : List Char) : trim (cs ++ back) = trim cs := by
  rw [trim, trim, strip, strip, List.dropWhile_append]
  split
  next hempty =>
    rw [List.isEmpty_iff.mp hempty, ← List.append_nil back, List.dropWhile_append_of_pos h]
    rfl
  next => exact dropTrailing_append_right h _

/-- A trimmed text is what is left between the blanks. -/
theorem trim_eq_iff {core : List Char} : trim cs = core ↔ IsTrimmed core ∧
    ∃ front back, cs = front ++ (core ++ back) ∧
      (∀ c ∈ front, isBlank c = true) ∧ ∀ c ∈ back, isBlank c = true := by
  constructor
  · rintro rfl
    exact ⟨isTrimmed_trim cs, exists_trim cs⟩
  · rintro ⟨htrimmed, front, back, rfl, hfront, hback⟩
    rw [trim_append_left hfront, trim_append_right hback, trim_eq_self htrimmed]

/-- A text that ends in no blank ends the same once it is trimmed. -/
theorem getLast?_trim (h : ∀ c ∈ cs.getLast?, isBlank c = false) :
    (trim cs).getLast? = cs.getLast? := by
  have hsplit := List.takeWhile_append_dropWhile (p := isBlank) (l := cs)
  have hlast : (cs.dropWhile isBlank).getLast? = cs.getLast? := by
    by_cases hrest : cs.dropWhile isBlank = []
    · rw [hrest, List.append_nil] at hsplit
      rw [hrest]
      cases hcs : cs.getLast? with
      | none => rfl
      | some c =>
        -- A text of blanks only would end in one.
        have hblank : isBlank c = true := by
          have hmem := List.mem_of_getLast? hcs
          rw [← hsplit] at hmem
          exact List.all_eq_true.mp List.all_takeWhile c hmem
        rw [h c hcs] at hblank
        cases hblank
    · have hends := congrArg List.getLast? hsplit
      rwa [List.getLast?_append_of_ne_nil _ hrest] at hends
  rw [trim, strip, dropTrailing_eq_self (by rwa [hlast]), hlast]

theorem length_trim_le (cs : List Char) : (trim cs).length ≤ cs.length := by
  obtain ⟨front, back, hsplit, -, -⟩ := exists_trim cs
  have hlength := congrArg List.length hsplit
  rw [List.length_append, List.length_append] at hlength
  omega

theorem solid_eq_nil (h : ∀ c ∈ cs, isBlank c = true) : solid cs = [] := by
  rw [solid, List.filter_eq_nil_iff]
  intro c hc
  rw [h c hc]
  exact Bool.false_ne_true

theorem solid_append (as bs : List Char) : solid (as ++ bs) = solid as ++ solid bs :=
  List.filter_append ..

/-- Trimming drops blanks only. -/
theorem solid_trim (cs : List Char) : solid (trim cs) = solid cs := by
  obtain ⟨front, back, hsplit, hfront, hback⟩ := exists_trim cs
  have hsolid := congrArg solid hsplit
  rw [solid_append, solid_append, solid_eq_nil hfront, solid_eq_nil hback, List.nil_append,
    List.append_nil] at hsolid
  exact hsolid.symm

/-- Dropping the blanks around parts, and blank parts, drops blanks only. -/
theorem flatMap_solid_trimmed (parts : List (List Char)) :
    ((parts.map trim).filter fun part => !part.isEmpty).flatMap solid =
      solid parts.flatten := by
  induction parts with
  | nil => rfl
  | cons part parts ih =>
    rw [List.map_cons, List.flatten_cons, solid_append, ← ih, ← solid_trim part, List.filter_cons]
    split
    · rw [List.flatMap_cons]
    next hempty =>
      have hnil : trim part = [] := by simpa using hempty
      rw [hnil]
      rfl

/-- A text is blank if nothing in it is not. -/
theorem solid_eq_nil_iff {text : String} : solid text.toList = [] ↔ isBlankText text = true := by
  rw [solid, List.filter_eq_nil_iff, isBlankText, List.all_eq_true]
  simp only [Bool.not_eq_true', Bool.not_eq_false]

/-- A trimmed text is blank only if it is empty. -/
theorem isBlankText_of_isTrimmed (h : IsTrimmed cs) (hne : cs ≠ []) :
    isBlankText (String.ofList cs) = false := by
  cases cs with
  | nil => exact absurd rfl hne
  | cons c cs =>
    rw [isBlankText, String.toList_ofList, List.all_cons, h.head c rfl, Bool.false_and]

theorem isBlankText_trimmed (s : String) : isBlankText (trimmed s) = isBlankText s := by
  have hsolid : solid (trimmed s).toList = solid s.toList := by
    rw [trimmed, String.toList_ofList, solid_trim]
  rw [Bool.eq_iff_iff, ← solid_eq_nil_iff, ← solid_eq_nil_iff, hsolid]

/-- Nothing is left of a text exactly if it is blank. -/
theorem trimmed_eq_empty_iff {s : String} : trimmed s = "" ↔ isBlankText s = true := by
  rw [← isBlankText_trimmed s]
  constructor
  · intro h
    rw [h]
    rfl
  · intro h
    by_contra hne
    have hcs : trim s.toList ≠ [] := by simpa [trimmed] using hne
    rw [trimmed, isBlankText_of_isTrimmed (isTrimmed_trim _) hcs] at h
    cases h

/-! ### Texts that say something -/

/-- A text that is not empty and has no blanks around it. -/
structure Filled (s : String) : Prop where
  ne_nil : s.toList ≠ []
  isTrimmed : IsTrimmed s.toList

theorem Filled.isBlankText {s : String} (h : Filled s) : isBlankText s = false := by
  have hblank := isBlankText_of_isTrimmed h.isTrimmed h.ne_nil
  rwa [String.ofList_toList] at hblank

/-- A text that is there at all is one that says something, if it is trimmed. -/
theorem filled_of_nonEmpty? {s : String} (hcs : IsTrimmed cs)
    (h : nonEmpty? cs = some s) : Filled s := by
  rw [nonEmpty?] at h
  split at h
  · cases h
  next hne =>
    obtain rfl := Option.some.inj h
    refine ⟨?_, ?_⟩
    · rw [String.toList_ofList]
      simpa using hne
    · rw [String.toList_ofList]
      exact hcs

end Tutor.Text
