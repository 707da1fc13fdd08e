import Mathlib.Data.List.SplitBy
import Tutor.Proofs.Speech.Segmentation

/-!
# What spans hold

Where a text falls into units can be said without saying how it is cut: a cut is wherever something
else follows a sentence mark, and nowhere else. There is one way to cut a text so, and the spans hold
the words of its parts, one after another. A character that is not blank belongs to a word, so none
is lost, added or moved.

* `IsCutBehindMarks`, `isCutBehindMarks_iff` – the parts of a text, and that they are its units.
* `flatten_words` – the words of a text are what is not blank in it.
* `contents_segment` – what the spans of a text hold.
-/

namespace Tutor.Speech

open Tutor.Text

variable {c d : Char} {cs : List Char} {parts : List (List Char)}

/-! ### Cutting behind marks -/

/-- Whether a character may stand next to another in one part: behind a sentence mark, only another
mark may. -/
def staysTogether (c d : Char) : Bool := !isSentenceMark c || isSentenceMark d

/-- The parts of a text that is cut behind every run of sentence marks which something else follows.
-/
structure IsCutBehindMarks (cs : List Char) (parts : List (List Char)) : Prop where
  /-- Put together, the parts are the text. -/
  whole : cs = parts.flatten
  filled : [] ∉ parts
  /-- Inside a part, nothing but sentence marks follows a sentence mark. -/
  uncut : ∀ part ∈ parts, part.IsChain fun c d => isSentenceMark c = true → isSentenceMark d = true
  /-- A part that another follows ends in a sentence mark, and the other begins with none. -/
  cut : parts.IsChain fun a b =>
    ∃ ha hb, isSentenceMark (a.getLast ha) = true ∧ isSentenceMark (b.head hb) = false

/-- A text can be cut in one way only. -/
theorem IsCutBehindMarks.splitBy_eq (h : IsCutBehindMarks cs parts) :
    cs.splitBy staysTogether = parts := by
  refine List.splitBy_eq_iff.mpr ⟨h.whole, h.filled, fun part hpart => ?_, ?_⟩
  · refine (h.uncut part hpart).imp fun c d hcd => ?_
    rw [staysTogether, Bool.or_eq_true, Bool.not_eq_true']
    cases hc : isSentenceMark c with
    | false => exact .inl rfl
    | true => exact .inr (hcd hc)
  · refine h.cut.imp fun a b => ?_
    rintro ⟨ha, hb, hmark, hother⟩
    exact ⟨ha, hb, by rw [staysTogether, hmark, hother]; rfl⟩

/-- One more character in front stands alone if it is a mark and the text begins with none. -/
theorem IsCutBehindMarks.cons (h : IsCutBehindMarks (d :: cs) parts)
    (hc : isSentenceMark c = true) (hd : isSentenceMark d = false) :
    IsCutBehindMarks (c :: d :: cs) ([c] :: parts) where
  whole := by rw [List.flatten_cons, ← h.whole, List.singleton_append]
  filled := by simpa using h.filled
  uncut := by simpa using h.uncut
  cut := by
    refine List.isChain_cons.mpr ⟨fun part hpart => ?_, h.cut⟩
    obtain ⟨more, rfl⟩ := List.head?_eq_some_iff.mp hpart
    obtain ⟨e, part, rfl⟩ := List.exists_cons_of_ne_nil fun hnil : part = [] =>
      h.filled (hnil ▸ List.mem_cons_self)
    obtain ⟨rfl, -⟩ := List.cons.inj h.whole
    exact ⟨List.cons_ne_nil _ _, List.cons_ne_nil _ _, hc, hd⟩

/-- Otherwise it joins the first part. -/
theorem IsCutBehindMarks.attach {part : List Char}
    (h : IsCutBehindMarks (d :: cs) ((d :: part) :: parts))
    (hcd : isSentenceMark c = true → isSentenceMark d = true) :
    IsCutBehindMarks (c :: d :: cs) ((c :: d :: part) :: parts) where
  whole := by rw [h.whole]; rfl
  filled := by simpa using h.filled
  uncut := by
    obtain ⟨hfirst, hmore⟩ := List.forall_mem_cons.mp h.uncut
    exact List.forall_mem_cons.mpr ⟨.cons_cons hcd hfirst, hmore⟩
  cut := by
    obtain ⟨hfirst, hmore⟩ := List.isChain_cons.mp h.cut
    refine List.isChain_cons.mpr ⟨fun next hnext => ?_, hmore⟩
    obtain ⟨ha, hb, hmarks⟩ := hfirst next hnext
    exact ⟨List.cons_ne_nil _ _, hb, hmarks⟩

/-- The units of a text are its parts. By induction on the text, each character in front of the
rest. -/
theorem isCutBehindMarks_units (cs : List Char) : IsCutBehindMarks cs (units cs) := by
  induction cs with
  | nil =>
    rw [units_nil]
    exact ⟨rfl, by simp, by simp, .nil⟩
  | cons c cs ih =>
    cases cs with
    | nil =>
      rw [units_singleton]
      exact ⟨rfl, by simp, by simp, .singleton _⟩
    | cons d cs =>
      rw [units_cons_cons]
      split
      next hcut =>
        obtain ⟨hc, hd⟩ := Bool.and_eq_true_iff.mp hcut
        exact ih.cons hc (by simpa using hd)
      next hcut =>
        obtain ⟨u, us, hu⟩ := exists_units_cons d cs
        rw [hu] at ih ⊢
        exact ih.attach fun hc => by simpa [hc] using hcut

theorem isCutBehindMarks_iff : IsCutBehindMarks cs parts ↔ parts = units cs := by
  constructor
  · intro h
    rw [← h.splitBy_eq, (isCutBehindMarks_units cs).splitBy_eq]
  · rintro rfl
    exact isCutBehindMarks_units cs

/-! ### Words and characters -/

/-- The words of a text are what is not blank in it. -/
theorem flatten_words (cs : List Char) : (words cs).flatten = solid cs := by
  fun_induction words cs with
  | case1 => rfl
  | case2 c rest hc ih => rw [ih, solid, solid, List.filter_cons, hc]; rfl
  | case3 c rest hc ih =>
    have hword : solid (rest.takeWhile fun d => !isBlank d) =
        rest.takeWhile fun d => !isBlank d :=
      List.filter_eq_self.mpr (List.all_eq_true.mp List.all_takeWhile)
    rw [List.flatten_cons, ih, ← hword, List.cons_append, ← solid_append,
      List.takeWhile_append_dropWhile, solid, solid, List.filter_cons, if_pos (by simpa using hc)]

/-- Texts put together keep what is not blank in them. -/
theorem solid_flatMap {α : Type} (f : α → List Char) (l : List α) :
    solid (l.flatMap f) = (l.flatMap fun a => words (f a)).flatten := by
  induction l with
  | nil => rfl
  | cons a l ih =>
    rw [List.flatMap_cons, List.flatMap_cons, List.flatten_append, solid_append, ih, flatten_words]

/-! ### The spans -/

/-- Whatever the limit is, the spans of a text hold, one after another, the words of its parts, where
it is cut behind its sentence marks; and so they hold every character that is not blank, in order. -/
theorem contents_segment (text : String) (limit : Nat) :
    ∃ parts, (∀ others, IsCutBehindMarks text.toList others ↔ others = parts) ∧
      (segment text limit).flatMap (fun span => words span.toList) = parts.flatMap words ∧
      solid ((segment text limit).flatMap String.toList) = solid text.toList := by
  have hwords : (segment text limit).flatMap (fun span => words span.toList) =
      (units text.toList).flatMap words := by
    rw [segment, List.flatMap_map, ← words_spansOf limit]
    simp
  refine ⟨units text.toList, fun others => isCutBehindMarks_iff, hwords, ?_⟩
  calc solid ((segment text limit).flatMap String.toList)
      = ((units text.toList).flatMap words).flatten := by rw [solid_flatMap, hwords]
    _ = solid ((units text.toList).flatMap id) := (solid_flatMap id _).symm
    _ = solid text.toList := by rw [List.flatMap_id, ← (isCutBehindMarks_units _).whole]

end Tutor.Speech
