import Mathlib.Data.List.Basic
import Tutor.Proofs.Speech.Segmentation

/-!
# What spans are like

A span is a text without blanks around it that keeps to the limit, unless it is a single word. While
units are packed, all spans are like that, the open one among them: it grows only if it still fits,
and what it is opened with is a unit that fits or a word.

* `IsSpan` – what a span is like.
* `Packing.areSpans_word`, `Packing.areSpans_unit` – one more word or unit is packed.
* `isSpan_of_mem_spansOf` – the spans of every text.
* `spans_segment` – what they are like, and when there are none.
-/

namespace Tutor.Speech

open Tutor.Text

/-- A span: there is something, no blank around it, and it is no longer than the limit, unless it is
a word. -/
structure IsSpan (limit : Nat) (s : List Char) : Prop where
  ne_nil : s ≠ []
  trimmed : IsTrimmed s
  fits : s.length ≤ limit ∨ IsWord s

variable {limit : Nat} {cs s part current : List Char}

theorem isTrimmed_of_isWord (h : IsWord s) : IsTrimmed s where
  head c hc := h.noBlank c (List.mem_of_mem_head? hc)
  last c hc := h.noBlank c (List.mem_of_mem_getLast? hc)

theorem isSpan_of_isWord (h : IsWord s) : IsSpan limit s :=
  ⟨h.ne_nil, isTrimmed_of_isWord h, .inr h⟩

theorem mem_close (h : s ∈ close current) : s = current ∧ current ≠ [] := by
  rw [close] at h
  split at h
  next => cases h
  next hne => exact ⟨List.mem_singleton.mp h, by simpa using hne⟩

theorem close_of_ne_nil (h : current ≠ []) : close current = [current] := by
  unfold close
  rw [if_neg (by simpa using h)]

theorem extend_of_ne_nil (h : current ≠ []) (part : List Char) :
    extend current part = current ++ ' ' :: part := by
  unfold extend
  rw [if_neg (by simpa using h)]

theorem extend_eq_nil_iff : extend current part = [] ↔ current = [] ∧ part = [] := by
  by_cases hopen : current = []
  · simp [extend, hopen]
  · simp [extend_of_ne_nil hopen, hopen]

theorem isTrimmed_extend (hcurrent : IsTrimmed current) (hpart : IsTrimmed part)
    (hne : part ≠ []) : IsTrimmed (extend current part) := by
  by_cases hopen : current = []
  · rwa [extend, hopen]
  · rw [extend_of_ne_nil hopen]
    exact hcurrent.append hpart hopen hne [' ']

/-- An open span that has grown and still fits is a span. -/
theorem isSpan_extend (hcurrent : ∀ s ∈ close current, IsSpan limit s) (hne : part ≠ [])
    (htrimmed : IsTrimmed part) (hfits : (extend current part).length ≤ limit) :
    IsSpan limit (extend current part) := by
  refine ⟨fun hnil => hne (extend_eq_nil_iff.mp hnil).2, ?_, .inl hfits⟩
  by_cases hopen : current = []
  · rwa [extend, hopen]
  · rw [close_of_ne_nil hopen] at hcurrent
    exact isTrimmed_extend (hcurrent current (List.mem_singleton_self _)).trimmed htrimmed hne

namespace Packing

variable {p : Packing}

/-- What holds of all spans still does if it holds of the open one once that has grown. -/
theorem forall_spans_join {P : List Char → Prop} (h : ∀ s ∈ p.spans, P s)
    (hgrown : P (extend p.current part)) : ∀ s ∈ (p.join part).spans, P s := by
  intro s hs
  rcases List.mem_append.mp hs with hs | hs
  · exact h s (List.mem_append_left _ hs)
  · obtain ⟨rfl, -⟩ := mem_close hs
    exact hgrown

/-- It still does if it holds of what a new one is opened with. -/
theorem forall_spans_restart {P : List Char → Prop} (h : ∀ s ∈ p.spans, P s)
    (hpart : part ≠ [] → P part) : ∀ s ∈ (p.restart part).spans, P s := by
  intro s hs
  rcases List.mem_append.mp hs with hs | hs
  · exact h s hs
  · obtain ⟨rfl, hne⟩ := mem_close hs
    exact hpart hne

/-- All spans are spans, also the open one. -/
def AreSpans (limit : Nat) (p : Packing) : Prop := ∀ s ∈ p.spans, IsSpan limit s

theorem areSpans_join (h : AreSpans limit p) (hne : part ≠ []) (htrimmed : IsTrimmed part)
    (hfits : p.fits limit part = true) : AreSpans limit (p.join part) := by
  have hopen : ∀ s ∈ close p.current, IsSpan limit s :=
    fun s hs => h s (List.mem_append_right _ hs)
  exact forall_spans_join h (isSpan_extend hopen hne htrimmed (by simpa [fits] using hfits))

theorem areSpans_word (h : AreSpans limit p) {w : List Char} (hw : IsWord w) :
    AreSpans limit (p.word limit w) := by
  rw [word]
  split
  next hfits => exact areSpans_join h hw.ne_nil (isTrimmed_of_isWord hw) hfits
  next => exact forall_spans_restart h fun _ => isSpan_of_isWord hw

theorem areSpans_foldl_word (h : AreSpans limit p) {ws : List (List Char)}
    (hws : ∀ w ∈ ws, IsWord w) : AreSpans limit (ws.foldl (word limit) p) := by
  induction ws generalizing p with
  | nil => exact h
  | cons w ws ih =>
    obtain ⟨hw, hws⟩ := List.forall_mem_cons.mp hws
    exact ih (areSpans_word h hw) hws

/-- A unit is packed whole if it fits a span at all, and word by word otherwise. -/
theorem areSpans_unit (h : AreSpans limit p) {u : List Char} (hne : u ≠ [])
    (htrimmed : IsTrimmed u) : AreSpans limit (p.unit limit u) := by
  rw [unit]
  split
  next hfits => exact areSpans_join h hne htrimmed hfits
  next =>
    split
    next hshort => exact forall_spans_restart h fun _ => ⟨hne, htrimmed, .inl hshort⟩
    next =>
      -- The open span is finished first, so that the words begin with an empty one.
      apply areSpans_foldl_word
      · exact forall_spans_restart h fun hnil => absurd rfl hnil
      · intro w hw
        exact isWord_of_mem_words hw

theorem areSpans_foldl_unit (h : AreSpans limit p) {us : List (List Char)}
    (hus : ∀ u ∈ us, u ≠ [] ∧ IsTrimmed u) : AreSpans limit (us.foldl (unit limit) p) := by
  induction us generalizing p with
  | nil => exact h
  | cons u us ih =>
    obtain ⟨⟨hne, htrimmed⟩, hus⟩ := List.forall_mem_cons.mp hus
    exact ih (areSpans_unit h hne htrimmed) hus

end Packing

theorem isTrimmed_of_mem_sentences (h : s ∈ sentences cs) : s ≠ [] ∧ IsTrimmed s := by
  obtain ⟨hunit, hne⟩ := List.mem_filter.mp h
  obtain ⟨u, -, rfl⟩ := List.mem_map.mp hunit
  exact ⟨by simpa using hne, isTrimmed_trim u⟩

theorem isSpan_of_mem_spansOf (h : s ∈ spansOf limit cs) : IsSpan (max limit 1) s := by
  have hnone : Packing.AreSpans (max limit 1) {} := fun s hs => by cases hs
  exact Packing.areSpans_foldl_unit hnone (fun u hu => isTrimmed_of_mem_sentences hu) s h

/-! ### The spans of a text -/

variable {text : String}

theorem isSpan_of_mem_segment {s : String} (h : s ∈ segment text limit) :
    IsSpan (max limit 1) s.toList := by
  obtain ⟨cs, hcs, rfl⟩ := List.mem_map.mp h
  rw [String.toList_ofList]
  exact isSpan_of_mem_spansOf hcs

theorem words_ne_nil_of_isSpan (h : IsSpan limit s) : words s ≠ [] := by
  intro hwords
  have hblank : ∀ c ∈ s, isBlank c = true := words_eq_nil_iff.mp hwords
  cases s with
  | nil => exact h.ne_nil rfl
  | cons c s =>
    have hc : isBlank c = false := h.trimmed.head c rfl
    rw [hblank c List.mem_cons_self] at hc
    cases hc

/-- There is no span exactly if there is no word: spans and text share their words, but for cuts
within them. -/
theorem spansOf_eq_nil_iff : spansOf limit cs = [] ↔ ∀ c ∈ cs, isBlank c = true := by
  have hshared : (spansOf limit cs).flatMap words = (words cs).flatMap units := by
    rw [words_spansOf, flatMap_words_units]
  rw [← words_eq_nil_iff]
  constructor
  · intro h
    rw [h] at hshared
    have hunits : ∀ w ∈ words cs, units w = [] := List.flatMap_eq_nil_iff.mp hshared.symm
    apply List.eq_nil_iff_forall_not_mem.mpr
    intro w hw
    cases w with
    | nil => exact (isWord_of_mem_words hw).ne_nil rfl
    | cons c w =>
      obtain ⟨u, us, hu⟩ := exists_units_cons c w
      rw [hunits _ hw] at hu
      cases hu
  · intro h
    rw [h] at hshared
    have hwords : ∀ s ∈ spansOf limit cs, words s = [] := List.flatMap_eq_nil_iff.mp hshared
    apply List.eq_nil_iff_forall_not_mem.mpr
    intro s hs
    exact words_ne_nil_of_isSpan (isSpan_of_mem_spansOf hs) (hwords s hs)

/-- Every span holds something and has no blank around it. It keeps to the limit, at least one, or
is a single word. A text has no span exactly if it is blank. -/
theorem spans_segment (text : String) (limit : Nat) :
    (∀ s ∈ segment text limit, s ≠ "" ∧ IsTrimmed s.toList ∧
        (s.length ≤ max limit 1 ∨ ∀ c ∈ s.toList, isBlank c = false)) ∧
      (segment text limit = [] ↔ ∀ c ∈ text.toList, isBlank c = true) := by
  constructor
  · intro s hs
    have hspan : IsSpan (max limit 1) s.toList := isSpan_of_mem_segment hs
    refine ⟨?_, hspan.trimmed, ?_⟩
    · intro hempty
      apply hspan.ne_nil
      simp [hempty]
    · rcases hspan.fits with hfits | hword
      · left
        rwa [String.length_toList] at hfits
      · right
        exact hword.noBlank
  · unfold segment
    rw [List.map_eq_nil_iff]
    exact spansOf_eq_nil_iff

end Tutor.Speech
