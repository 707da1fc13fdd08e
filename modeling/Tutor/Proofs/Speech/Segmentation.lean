import Tutor.Proofs.Text.Words
import Tutor.Speech.Span

/-!
# The words of spans

Packing neither loses nor adds a word. What may change the words of a text is that it is cut into
units first: a cut behind a sentence mark can go through a word. So the spans hold the units of the
words, and they hold the words themselves exactly if sentence marks stand at the ends of words only.

* `units_cons_cons` – where a text is cut.
* `words_spansOf` – packing keeps the words of the units.
* `flatMap_words_units` – cutting and splitting into words can be exchanged.
* `units_eq_singleton_iff` – when a word is not cut.
-/

namespace Tutor.Speech

open Tutor.Text

variable {c d : Char} {cs w : List Char}

/-! ### Cutting into units -/

theorem units_nil : units [] = [] := by
  rw [units]

theorem units_singleton (c : Char) : units [c] = [[c]] := by
  rw [units]
  cases hc : isSentenceMark c <;> simp [hc, units_nil]

/-- A text is cut between a sentence mark and something else, and nowhere else. -/
theorem units_cons_cons (c d : Char) (cs : List Char) :
    units (c :: d :: cs) =
      if isSentenceMark c && !isSentenceMark d then [c] :: units (d :: cs)
      else attach c (units (d :: cs)) := by
  rw [units]
  cases hc : isSentenceMark c with
  | false =>
    rw [units]
    simp [hc, attach]
  | true =>
    cases hd : isSentenceMark d with
    | false => simp [hc, hd]
    | true =>
      rw [units]
      simp [hc, hd, attach]

/-- The first unit of a text begins as the text does. -/
theorem exists_units_cons (c : Char) (cs : List Char) :
    ∃ u more, units (c :: cs) = (c :: u) :: more := by
  cases cs with
  | nil => exact ⟨[], [], units_singleton c⟩
  | cons d cs =>
    rw [units_cons_cons]
    split
    · exact ⟨_, _, rfl⟩
    · cases units (d :: cs) with
      | nil => exact ⟨_, _, rfl⟩
      | cons u more => exact ⟨_, _, rfl⟩

theorem isBlank_of_isSentenceMark (hc : isSentenceMark c = true) : isBlank c = false := by
  simp only [isSentenceMark, Bool.or_eq_true, beq_iff_eq] at hc
  rcases hc with (rfl | rfl) | rfl <;> decide

/-- The words of the units are the units of the words. By induction on the text: one more character
in front either stands alone in both, or begins the first part of both. -/
theorem flatMap_words_units (cs : List Char) :
    (units cs).flatMap words = (words cs).flatMap units := by
  induction cs with
  | nil => rw [units_nil, words_nil]; rfl
  | cons c cs ih =>
    cases cs with
    | nil =>
      rw [units_singleton, List.flatMap_singleton]
      cases hc : isBlank c with
      | true => rw [words_blank hc, words_nil]; rfl
      | false =>
        rw [words_cons hc (by simp), words_nil, List.flatMap_singleton, units_singleton]
    | cons d cs =>
      rw [units_cons_cons]
      obtain ⟨u, us, hu⟩ := exists_units_cons d cs
      by_cases hcut : (isSentenceMark c && !isSentenceMark d) = true
      · -- The mark `c` is a unit of its own, and it either is a word or is cut off one.
        have hc : isBlank c = false :=
          isBlank_of_isSentenceMark (Bool.and_eq_true_iff.mp hcut).1
        rw [if_pos hcut, List.flatMap_cons, ih, words_cons hc (by simp), words_nil]
        cases hd : isBlank d with
        | true =>
          rw [words_cons hc (by simpa using hd), List.flatMap_cons, units_singleton]
        | false =>
          obtain ⟨v, vs, hv⟩ := exists_words_cons hd cs
          rw [words_cons_cons hc hd, hv, attach, List.flatMap_cons, List.flatMap_cons,
            units_cons_cons, if_pos hcut]
          rfl
      · -- The first unit goes on with `d`, so only a blank can tell `c` from what follows.
        rw [if_neg hcut, hu, attach, List.flatMap_cons]
        rw [hu, List.flatMap_cons] at ih
        cases hc : isBlank c with
        | true => rw [words_blank hc, words_blank hc, ih]
        | false =>
          cases hd : isBlank d with
          | true =>
            rw [words_cons hc (by simpa using hd), words_cons hc (by simpa using hd),
              List.flatMap_cons, units_singleton, ← ih]
            rfl
          | false =>
            obtain ⟨v, vs, hv⟩ := exists_words_cons hd cs
            obtain ⟨x, xs, hx⟩ := exists_words_cons hd u
            obtain ⟨y, ys, hy⟩ := exists_units_cons d v
            rw [words_cons_cons hc hd, words_cons_cons hc hd, ← attach_append c (by simp [hx]), ih,
              hv, attach, List.flatMap_cons, List.flatMap_cons, units_cons_cons, if_neg hcut,
              attach_append c (by simp [hy])]

/-! ### Packing -/

/-- The words packed so far. -/
def Packing.words (p : Packing) : List (List Char) := p.spans.flatMap Text.words

theorem words_extend (current part : List Char) :
    words (extend current part) = words current ++ words part := by
  cases current with
  | nil => rw [words_nil]; rfl
  | cons c current => exact words_append_blank (by decide) _ _

theorem flatMap_words_close (current : List Char) :
    (close current).flatMap words = words current := by
  cases current with
  | nil => rw [words_nil]; rfl
  | cons c current => exact List.append_nil _

namespace Packing

variable {limit : Nat} {p : Packing}

theorem words_eq (p : Packing) : p.words = p.done.flatMap Text.words ++ Text.words p.current := by
  rw [Packing.words, spans, List.flatMap_append, flatMap_words_close]

theorem words_join (p : Packing) (part : List Char) :
    (p.join part).words = p.words ++ Text.words part := by
  simp only [words_eq, join, words_extend, List.append_assoc]

theorem words_restart (p : Packing) (part : List Char) :
    (p.restart part).words = p.words ++ Text.words part := by
  simp only [words_eq, restart, List.flatMap_append, flatMap_words_close]

theorem words_word (limit : Nat) (p : Packing) (w : List Char) :
    (p.word limit w).words = p.words ++ Text.words w := by
  rw [word]
  split
  · exact p.words_join w
  · exact p.words_restart w

theorem words_foldl_word (limit : Nat) (p : Packing) (ws : List (List Char)) :
    (ws.foldl (word limit) p).words = p.words ++ ws.flatMap Text.words := by
  induction ws generalizing p with
  | nil => exact (List.append_nil _).symm
  | cons w ws ih => rw [List.foldl_cons, ih, words_word, List.flatMap_cons, List.append_assoc]

/-- However a unit is packed, its words come behind those packed before. -/
theorem words_unit (limit : Nat) (p : Packing) (u : List Char) :
    (p.unit limit u).words = p.words ++ Text.words u := by
  rw [unit]
  split
  · exact p.words_join u
  · split
    · exact p.words_restart u
    · rw [words_foldl_word, words_restart, words_nil, List.append_nil, flatMap_words_words]

theorem words_foldl_unit (limit : Nat) (p : Packing) (us : List (List Char)) :
    (us.foldl (unit limit) p).words = p.words ++ us.flatMap Text.words := by
  induction us generalizing p with
  | nil => exact (List.append_nil _).symm
  | cons u us ih => rw [List.foldl_cons, ih, words_unit, List.flatMap_cons, List.append_assoc]

end Packing

/-- Trimming the units and leaving out blank ones keeps their words. -/
theorem flatMap_words_sentences (cs : List Char) :
    (sentences cs).flatMap words = (units cs).flatMap words := by
  rw [sentences]
  induction units cs with
  | nil => rfl
  | cons u us ih =>
    rw [List.map_cons, List.filter_cons, List.flatMap_cons, ← ih]
    split
    · rw [List.flatMap_cons, words_trim]
    · next hempty =>
      have hnil : trim u = [] := by simpa using hempty
      rw [← words_trim u, hnil, words_nil, List.nil_append]

/-- The spans hold the words of the units. -/
theorem words_spansOf (limit : Nat) (cs : List Char) :
    (spansOf limit cs).flatMap words = (units cs).flatMap words := by
  have hpacked := Packing.words_foldl_unit (max limit 1) {} (sentences cs)
  rw [Packing.words, Packing.words_eq, words_nil, flatMap_words_sentences] at hpacked
  exact hpacked

/-! ### When the words stay whole -/

/-- If every part gives something, the whole is no shorter afterwards. -/
theorem length_le_length_flatMap {α : Type} {g : α → List α} {l : List α}
    (h : ∀ x ∈ l, g x ≠ []) : l.length ≤ (l.flatMap g).length := by
  induction l with
  | nil => exact Nat.le_refl _
  | cons x l ih =>
    have hx : 0 < (g x).length := List.length_pos_iff.mpr (h x (List.mem_cons_self ..))
    have hl := ih fun y hy => h y (List.mem_cons_of_mem _ hy)
    rw [List.flatMap_cons, List.length_append, List.length_cons]
    omega

/-- If every part gives something, the whole gives itself back only if every part does. -/
theorem flatMap_eq_self_iff {α : Type} {g : α → List α} {l : List α} (h : ∀ x ∈ l, g x ≠ []) :
    l.flatMap g = l ↔ ∀ x ∈ l, g x = [x] := by
  induction l with
  | nil => simp
  | cons x l ih =>
    have hl : ∀ y ∈ l, g y ≠ [] := fun y hy => h y (List.mem_cons_of_mem _ hy)
    have hrest : l.flatMap g = l ↔ ∀ y ∈ l, g y = [y] := ih hl
    rw [List.flatMap_cons, List.forall_mem_cons, ← hrest]
    constructor
    · intro hself
      cases hx : g x with
      | nil => exact absurd hx (h x (List.mem_cons_self ..))
      | cons y ys =>
        rw [hx, List.cons_append] at hself
        obtain ⟨rfl, hrest⟩ := List.cons.inj hself
        -- What is behind the first part alone is as long as it may be, so nothing else is there.
        have hys : ys = [] := by
          have hsum := congrArg List.length hrest
          have := length_le_length_flatMap hl
          rw [List.length_append] at hsum
          exact List.length_eq_zero_iff.mp (by omega)
        rw [hys, List.nil_append] at hrest
        exact ⟨by rw [hys], hrest⟩
    · rintro ⟨hx, hrest⟩
      rw [hx, hrest, List.singleton_append]

/-- What is so of all neighbours is so of the first two and of all behind them. -/
theorem forall_infix_pair_cons {α : Type} {P : α → α → Prop} {c e : α} {w : List α} :
    (∀ m d, [m, d] <:+: c :: e :: w → P m d) ↔ P c e ∧ ∀ m d, [m, d] <:+: e :: w → P m d := by
  simp only [List.infix_cons_iff (a := c)]
  constructor
  · intro h
    exact ⟨h c e (.inl ⟨w, rfl⟩), fun m d hmd => h m d (.inr hmd)⟩
  · rintro ⟨hc, h⟩ m d (⟨more, hmore⟩ | hmd)
    · obtain ⟨rfl, rfl, -⟩ := by simpa using hmore
      exact hc
    · exact h m d hmd

/-- A text is one unit exactly if nothing but sentence marks follows a sentence mark. -/
theorem units_eq_singleton_iff (hw : w ≠ []) :
    units w = [w] ↔
      ∀ m d, [m, d] <:+: w → isSentenceMark m = true → isSentenceMark d = true := by
  induction w with
  | nil => exact absurd rfl hw
  | cons c w ih =>
    cases w with
    | nil =>
      rw [units_singleton]
      refine iff_of_true rfl fun m d h => ?_
      have := h.length_le
      simp at this
    | cons e w =>
      obtain ⟨u, us, hu⟩ := exists_units_cons e w
      rw [forall_infix_pair_cons, ← ih (by simp), units_cons_cons, hu]
      cases hc : isSentenceMark c <;> cases he : isSentenceMark e <;> simp [attach]

/-- The spans of a text hold, in order, the units of its words: its words are kept exactly if each
of them holds sentence marks at its end only. -/
theorem words_segment (text : String) (limit : Nat) :
    words (" ".intercalate (segment text limit)).toList = (words text.toList).flatMap units ∧
      (words (" ".intercalate (segment text limit)).toList = words text.toList ↔
        ∀ w ∈ words text.toList, ∀ m d, [m, d] <:+: w →
          isSentenceMark m = true → isSentenceMark d = true) := by
  have hjoined : (" ".intercalate (segment text limit)).toList =
      joinWith [' '] (spansOf limit text.toList) := by
    rw [String.toList_intercalate, segment, List.map_map, joinWith]
    simp [Function.comp_def]
  have hwords : words (" ".intercalate (segment text limit)).toList =
      (words text.toList).flatMap units := by
    rw [hjoined, words_joinWith, words_spansOf, flatMap_words_units]
  have hne : ∀ w ∈ words text.toList, w ≠ [] := fun w hw => (isWord_of_mem_words hw).ne_nil
  refine ⟨hwords, ?_⟩
  rw [hwords, flatMap_eq_self_iff]
  · exact forall₂_congr fun w hw => units_eq_singleton_iff (hne w hw)
  · intro w hw
    cases w with
    | nil => exact absurd rfl (hne _ hw)
    | cons c w =>
      obtain ⟨u, us, hu⟩ := exists_units_cons c w
      simp [hu]

/-- A number with a point in it comes apart. -/
theorem words_segment_decimal :
    words (" ".intercalate (segment "3.14" 180)).toList ≠ words "3.14".toList := by
  decide +kernel

end Tutor.Speech
