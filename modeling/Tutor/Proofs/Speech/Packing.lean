import Mathlib.Data.List.Induction
import Tutor.Proofs.Speech.Spans
import Tutor.Proofs.Text.Cut

/-!
# As few spans as possible

Where every unit of a text fits a span, units are gathered whole, and each span holds a group of
them. There may be other ways to gather them, but none with fewer spans: units that fit one span
together add at most one to those there are, however much is packed already, since once one of them
begins a span the others join it.

* `Packing.foldl_unit_of_fits`, `Packing.length_spans_foldl_unit_le` – units that fit together.
* `Packing.spans_unit_cases`, `Packing.exists_groups` – what spans are made of.
* `fewest_segment` – the spans of every text whose units fit.
-/

namespace Tutor.Speech

open Tutor.Text

variable {limit : Nat} {u part current : List Char} {us : List (List Char)}

/-! ### Units that fit together -/

/-- A unit that joins the open span counts as one part with it. -/
theorem joinWith_extend (h : current ≠ []) (u : List Char) (us : List (List Char)) :
    joinWith [' '] (extend current u :: us) = joinWith [' '] (current :: u :: us) := by
  rw [extend_of_ne_nil h]
  cases us with
  | nil => rw [joinWith_cons_cons, joinWith_singleton, joinWith_singleton]; rfl
  | cons next us => simp [joinWith_cons_cons]

theorem length_head_le_joinWith (part : List Char) (parts : List (List Char)) :
    part.length ≤ (joinWith [' '] (part :: parts)).length := by
  cases parts with
  | nil => exact Nat.le_of_eq (by rw [joinWith_singleton])
  | cons next parts =>
    rw [joinWith_cons_cons, List.length_append]
    omega

theorem length_tail_le_joinWith (part : List Char) (parts : List (List Char)) :
    (joinWith [' '] parts).length ≤ (joinWith [' '] (part :: parts)).length := by
  cases parts with
  | nil => exact Nat.zero_le _
  | cons next parts =>
    rw [joinWith_cons_cons, List.length_append, List.length_append]
    omega

namespace Packing

variable {p : Packing}

theorem length_spans (p : Packing) :
    p.spans.length = p.done.length + (close p.current).length := by
  rw [spans, List.length_append]

theorem length_spans_of_ne_nil (h : p.current ≠ []) : p.spans.length = p.done.length + 1 := by
  rw [length_spans, close_of_ne_nil h, List.length_singleton]

theorem unit_of_fits (h : p.fits limit u = true) : p.unit limit u = p.join u := by
  rw [unit, if_pos h]

theorem unit_of_not_fits (h : p.fits limit u = false) (hu : u.length ≤ limit) :
    p.unit limit u = p.restart u := by
  rw [unit, h, if_pos hu]
  rfl

/-- Units that fit into the open span all join it. -/
theorem foldl_unit_of_fits (hopen : p.current ≠ [])
    (hfits : (joinWith [' '] (p.current :: us)).length ≤ limit) :
    us.foldl (unit limit) p = { p with current := joinWith [' '] (p.current :: us) } := by
  induction us generalizing p with
  | nil => rw [joinWith_singleton]; rfl
  | cons u us ih =>
    rw [← joinWith_extend hopen] at hfits ⊢
    have hunit : p.fits limit u = true := by
      have := length_head_le_joinWith (extend p.current u) us
      simp only [fits, decide_eq_true_eq]
      omega
    rw [List.foldl_cons, unit_of_fits hunit]
    exact ih (fun hnil => hopen (extend_eq_nil_iff.mp hnil).1) hfits

/-- Units that fit into the open span add no span. -/
theorem length_spans_foldl_unit_of_fits (hopen : p.current ≠ [])
    (hfits : (joinWith [' '] (p.current :: us)).length ≤ limit) :
    (us.foldl (unit limit) p).spans.length = p.done.length + 1 := by
  have hne : joinWith [' '] (p.current :: us) ≠ [] := by
    have hhead := length_head_le_joinWith p.current us
    have hlength := List.length_pos_iff.mpr hopen
    exact List.length_pos_iff.mp (by omega)
  rw [foldl_unit_of_fits hopen hfits, length_spans_of_ne_nil hne]

/-- Units that fit one span together add at most one span to those there are. By induction on the
units that still join the open span: the first that does not begins the span that is added. -/
theorem length_spans_foldl_unit_le (hne : ∀ u ∈ us, u ≠ [])
    (hfits : (joinWith [' '] us).length ≤ limit) (p : Packing) :
    (us.foldl (unit limit) p).spans.length ≤ p.spans.length + 1 := by
  induction us generalizing p with
  | nil => exact Nat.le_succ _
  | cons u us ih =>
    obtain ⟨hu, hus⟩ := List.forall_mem_cons.mp hne
    rw [List.foldl_cons]
    cases hunit : p.fits limit u with
    | true =>
      rw [unit_of_fits hunit]
      by_cases hopen : p.current = []
      · have hcurrent : (p.join u).current = u := by simp [join, extend, hopen]
        rw [length_spans_foldl_unit_of_fits (by rwa [hcurrent]) (by rwa [hcurrent]), length_spans]
        show p.done.length + 1 ≤ _
        omega
      · have hgrown : (p.join u).current ≠ [] := fun hnil => hu (extend_eq_nil_iff.mp hnil).2
        have hsame : (p.join u).spans.length = p.spans.length := by
          rw [length_spans_of_ne_nil hopen, length_spans_of_ne_nil hgrown]
          rfl
        rw [← hsame]
        exact ih hus (Nat.le_trans (length_tail_le_joinWith u us) hfits) _
    | false =>
      have hshort : u.length ≤ limit := Nat.le_trans (length_head_le_joinWith u us) hfits
      rw [unit_of_not_fits hunit hshort]
      exact Nat.le_of_eq (length_spans_foldl_unit_of_fits (p := p.restart u) hu hfits)

/-- However units are gathered, packing them takes no more spans. -/
theorem length_spans_foldl_unit_flatten_le {groups : List (List (List Char))}
    (hne : ∀ u ∈ groups.flatten, u ≠ [])
    (hfits : ∀ group ∈ groups, (joinWith [' '] group).length ≤ limit) (p : Packing) :
    (groups.flatten.foldl (unit limit) p).spans.length ≤ p.spans.length + groups.length := by
  induction groups generalizing p with
  | nil => exact Nat.le_refl _
  | cons group groups ih =>
    obtain ⟨hgroup, hgroups⟩ := List.forall_mem_cons.mp hfits
    rw [List.flatten_cons] at hne ⊢
    have hfirst := length_spans_foldl_unit_le
      (fun u hu => hne u (List.mem_append_left _ hu)) hgroup p
    have hrest := ih (fun u hu => hne u (List.mem_append_right _ hu)) hgroups
      (group.foldl (unit limit) p)
    rw [List.foldl_append, List.length_cons]
    omega

end Packing

/-! ### Groups of units -/

/-- Units gathered in order, where those of each group, with a space between neighbours, are no
longer than the limit. -/
structure IsGrouping (limit : Nat) (us : List (List Char)) (groups : List (List (List Char))) :
    Prop where
  whole : groups.flatten = us
  fits : ∀ group ∈ groups, (joinWith [' '] group).length ≤ limit

theorem IsGrouping.concat {groups : List (List (List Char))} (h : IsGrouping limit us groups)
    (hu : u.length ≤ limit) : IsGrouping limit (us ++ [u]) (groups ++ [[u]]) where
  whole := by simp [h.whole]
  fits := List.forall_mem_append.mpr ⟨h.fits, by simpa [joinWith_singleton] using hu⟩

theorem IsGrouping.extend {groups : List (List (List Char))} {last : List (List Char)}
    (h : IsGrouping limit us (groups ++ [last]))
    (hfits : (joinWith [' '] (last ++ [u])).length ≤ limit) :
    IsGrouping limit (us ++ [u]) (groups ++ [last ++ [u]]) where
  whole := by simp [← h.whole]
  fits := List.forall_mem_append.mpr ⟨(List.forall_mem_append.mp h.fits).1, by simpa using hfits⟩

namespace Packing

/-- A unit that fits a span either is a span of its own or is put behind the last span. -/
theorem spans_unit_cases (p : Packing) (hu : u.length ≤ limit) :
    (p.unit limit u).spans = p.spans ++ close u ∨
      p.spans = p.done ++ [p.current] ∧
        (p.unit limit u).spans = p.done ++ [p.current ++ ' ' :: u] ∧
          (p.current ++ ' ' :: u).length ≤ limit := by
  cases hunit : p.fits limit u with
  | false =>
    rw [unit_of_not_fits hunit hu]
    exact .inl rfl
  | true =>
    rw [unit_of_fits hunit]
    by_cases hopen : p.current = []
    · left
      simp [spans, join, hopen, extend, close]
    · right
      simp only [fits, extend_of_ne_nil hopen, decide_eq_true_eq] at hunit
      refine ⟨?_, ?_, hunit⟩
      · rw [spans, close_of_ne_nil hopen]
      · rw [spans, join, extend_of_ne_nil hopen, close_of_ne_nil (by simp)]

/-- The spans of units that fit are groups of them. By induction on the units, the last one first.
-/
theorem exists_groups (hus : ∀ u ∈ us, u ≠ [] ∧ u.length ≤ limit) :
    ∃ groups, (us.foldl (unit limit) {}).spans = groups.map (joinWith [' ']) ∧
      IsGrouping limit us groups ∧ [] ∉ groups := by
  induction us using List.reverseRecOn with
  | nil => exact ⟨[], rfl, ⟨rfl, by simp⟩, by simp⟩
  | append_singleton us u ih =>
    obtain ⟨hne, hu⟩ := hus u (by simp)
    obtain ⟨groups, hspans, hgroups, hfilled⟩ := ih fun v hv => hus v (List.mem_append_left _ hv)
    rw [List.foldl_append, List.foldl_cons, List.foldl_nil]
    rcases spans_unit_cases (us.foldl (unit limit) {}) hu with hnew | ⟨hopen, hnew, hfits⟩
    · refine ⟨groups ++ [[u]], ?_, hgroups.concat hu, by simpa using hfilled⟩
      rw [hnew, hspans, close_of_ne_nil hne, List.map_append, List.map_singleton,
        joinWith_singleton]
    · rw [hopen] at hspans
      obtain ⟨front, back, rfl, hfront, hback⟩ := List.append_eq_map_iff.mp hspans
      obtain ⟨last, rfl, hlast⟩ := List.map_eq_singleton_iff.mp hback
      have hlastne : last ≠ [] := fun hnil => hfilled (by simp [hnil])
      have hjoined : joinWith [' '] (last ++ [u]) = joinWith [' '] last ++ ' ' :: u := by
        rw [joinWith_append _ hlastne (List.cons_ne_nil _ _), joinWith_singleton]
        rfl
      refine ⟨front ++ [last ++ [u]], ?_, hgroups.extend ?_, ?_⟩
      · rw [hnew, List.map_append, List.map_singleton, hjoined, hlast, hfront]
      · rwa [hjoined, hlast]
      · simp only [List.mem_append, List.mem_singleton, not_or] at hfilled ⊢
        exact ⟨hfilled.1, by simp⟩

end Packing

/-! ### The spans of a text -/

/-- If every unit of a text fits a span, its spans are groups of its units, each joined by spaces,
and however else the units may be gathered, it takes no fewer groups. -/
theorem fewest_segment (text : String) (limit : Nat) (hlimit : 1 ≤ limit)
    (hunits : ∀ u ∈ units text.toList, (trim u).length ≤ limit) :
    ∃ groups, IsGrouping limit (sentences text.toList) groups ∧ [] ∉ groups ∧
      segment text limit = groups.map (fun group => String.ofList (joinWith [' '] group)) ∧
      ∀ others, IsGrouping limit (sentences text.toList) others →
        groups.length ≤ others.length := by
  have hsentences : ∀ u ∈ sentences text.toList, u ≠ [] ∧ u.length ≤ limit := by
    intro u hu
    refine ⟨(isTrimmed_of_mem_sentences hu).1, ?_⟩
    obtain ⟨raw, hraw, rfl⟩ := List.mem_map.mp (List.mem_filter.mp hu).1
    exact hunits raw hraw
  obtain ⟨groups, hspans, hgroups, hfilled⟩ := Packing.exists_groups hsentences
  refine ⟨groups, hgroups, hfilled, ?_, ?_⟩
  · unfold segment spansOf
    rw [Nat.max_eq_left hlimit, hspans, List.map_map]
    rfl
  · intro others hothers
    have hle := Packing.length_spans_foldl_unit_flatten_le
      (fun u hu => (hsentences u (hothers.whole ▸ hu)).1) hothers.fits {}
    rw [hothers.whole, hspans, List.length_map] at hle
    simpa [Packing.spans, close] using hle

/-- Units of which two fill a span to the last character. -/
theorem fewest_of_exact_fit :
    1 ≤ 9 ∧ (∀ u ∈ units "One. Two. Three. Four!? Six.".toList, (trim u).length ≤ 9) ∧
      segment "One. Two. Three. Four!? Six." 9 = ["One. Two.", "Three.", "Four!?", "Six."] ∧
      ∀ others, IsGrouping 9 (sentences "One. Two. Three. Four!? Six.".toList) others →
        4 ≤ others.length := by
  have hunits : ∀ u ∈ units "One. Two. Three. Four!? Six.".toList, (trim u).length ≤ 9 := by
    decide +kernel
  have hspans : segment "One. Two. Three. Four!? Six." 9 =
      ["One. Two.", "Three.", "Four!?", "Six."] := by decide +kernel
  obtain ⟨groups, -, -, hgroups, hfewest⟩ := fewest_segment _ 9 (by decide) hunits
  have hlength : groups.length = 4 := by
    rw [hspans] at hgroups
    simpa using (congrArg List.length hgroups).symm
  rw [hlength] at hfewest
  exact ⟨by decide, hunits, hspans, hfewest⟩

end Tutor.Speech
