import Tutor.Proofs.Text.Trim

/-!
# Words

Splitting a text into words goes through blank characters: a blank separates what stands before it
from what stands behind it, and otherwise does not matter. Everything about words follows from what
one more character in front of a text does to them.

* `words_blank`, `words_cons`, `words_cons_cons` – one more character in front.
* `words_append_blank`, `words_trim`, `words_joinWith` – texts put together and trimmed.
* `words_eq_nil_iff` – when there are none.
* `isWord_of_mem_words`, `words_of_isWord` – words are texts without a blank, and their own words.
* `exists_append_isWord` – the last word.
-/

namespace Tutor.Text

variable {c d : Char} {cs as bs w : List Char}

/-! ### One more character -/

/-- A character put in front of the first part. -/
def attach (c : Char) : List (List Char) → List (List Char)
  | [] => [[c]]
  | part :: parts => (c :: part) :: parts

theorem attach_append (c : Char) {parts : List (List Char)} (h : parts ≠ [])
    (more : List (List Char)) : attach c (parts ++ more) = attach c parts ++ more := by
  cases parts with
  | nil => exact absurd rfl h
  | cons part parts => rfl

theorem words_nil : words [] = [] := by
  rw [words]

theorem words_blank (hc : isBlank c = true) (cs : List Char) : words (c :: cs) = words cs := by
  rw [words, if_pos hc]

/-- The first word of a text that begins with no blank begins as the text does. -/
theorem exists_words_cons (hc : isBlank c = false) (cs : List Char) :
    ∃ w more, words (c :: cs) = (c :: w) :: more := by
  rw [words, if_neg (by simp [hc])]
  exact ⟨_, _, rfl⟩

/-- In front of a blank, and at the end, a character is a word of its own. -/
theorem words_cons (hc : isBlank c = false) (hcs : ∀ d ∈ cs.head?, isBlank d = true) :
    words (c :: cs) = [c] :: words cs := by
  rw [words, if_neg (by simp [hc])]
  cases cs with
  | nil => rfl
  | cons d cs =>
    have hd : isBlank d = true := hcs d rfl
    simp [hd]

/-- In front of a word, a character begins that word. -/
theorem words_cons_cons (hc : isBlank c = false) (hd : isBlank d = false) (cs : List Char) :
    words (c :: d :: cs) = attach c (words (d :: cs)) := by
  rw [words, if_neg (by simp [hc]), words, if_neg (by simp [hd])]
  simp [hd, attach]

/-! ### Texts put together -/

/-- A blank separates the words before it from those behind it. -/
theorem words_append_blank (hd : isBlank d = true) (as bs : List Char) :
    words (as ++ d :: bs) = words as ++ words bs := by
  induction as with
  | nil => rw [List.nil_append, words_blank hd, words_nil, List.nil_append]
  | cons a as ih =>
    rw [List.cons_append]
    cases ha : isBlank a with
    | true => rw [words_blank ha, words_blank ha, ih]
    | false =>
      cases as with
      | nil =>
        rw [List.nil_append] at ih ⊢
        rw [words_cons ha (by simpa using hd), words_cons ha (by simp), ih, List.cons_append]
      | cons a' as =>
        cases ha' : isBlank a' with
        | true =>
          rw [words_cons ha (by simpa using ha'), words_cons ha (by simpa using ha'), ih,
            List.cons_append]
        | false =>
          -- Both characters begin one word, which stands before the blank on either side.
          obtain ⟨w, more, hw⟩ := exists_words_cons ha' as
          rw [List.cons_append, words_cons_cons ha ha', words_cons_cons ha ha',
            ← attach_append a (by simp [hw]), ← ih, List.cons_append]

theorem words_eq_nil (h : ∀ c ∈ cs, isBlank c = true) : words cs = [] := by
  induction cs with
  | nil => exact words_nil
  | cons c cs ih =>
    rw [words_blank (h c (List.mem_cons_self ..))]
    exact ih fun d hd => h d (List.mem_cons_of_mem _ hd)

theorem words_eq_nil_iff : words cs = [] ↔ ∀ c ∈ cs, isBlank c = true := by
  constructor
  · intro h
    induction cs with
    | nil => simp
    | cons c cs ih =>
      cases hc : isBlank c with
      | false =>
        obtain ⟨w, more, hw⟩ := exists_words_cons hc cs
        rw [hw] at h
        cases h
      | true =>
        rw [words_blank hc] at h
        exact List.forall_mem_cons.mpr ⟨hc, ih h⟩
  · intro h
    exact words_eq_nil h

/-- Blanks at the end do not matter. -/
theorem words_append_of_blank (as : List Char) (h : ∀ c ∈ bs, isBlank c = true) :
    words (as ++ bs) = words as := by
  cases bs with
  | nil => rw [List.append_nil]
  | cons b bs =>
    rw [words_append_blank (h b (List.mem_cons_self ..)),
      words_eq_nil fun c hc => h c (List.mem_cons_of_mem _ hc), List.append_nil]

theorem words_dropWhile_isBlank (cs : List Char) : words (cs.dropWhile isBlank) = words cs := by
  induction cs with
  | nil => rfl
  | cons c cs ih =>
    rw [List.dropWhile_cons]
    split
    · next hc => rw [ih, words_blank hc]
    · rfl

/-- Trimming a text keeps its words. -/
theorem words_trim (cs : List Char) : words (trim cs) = words cs := by
  obtain ⟨run, hsplit, hrun⟩ := dropTrailing_append isBlank (cs.dropWhile isBlank)
  rw [trim, strip, ← words_append_of_blank _ hrun, ← hsplit, words_dropWhile_isBlank]

/-- Parts joined by a space hold the words of each. -/
theorem words_joinWith (parts : List (List Char)) :
    words (joinWith [' '] parts) = parts.flatMap words := by
  induction parts with
  | nil => exact words_nil
  | cons part parts ih =>
    cases parts with
    | nil => simp [joinWith]
    | cons next parts =>
      rw [joinWith, List.intercalate_cons_cons, List.append_assoc]
      rw [joinWith] at ih
      rw [List.singleton_append, words_append_blank (by decide), ih, ← List.flatMap_cons]

/-! ### Words themselves -/

/-- A text that is a word: there is something, and nothing blank. -/
structure IsWord (w : List Char) : Prop where
  ne_nil : w ≠ []
  noBlank : ∀ c ∈ w, isBlank c = false

theorem isWord_of_mem_words (h : w ∈ words cs) : IsWord w := by
  fun_induction words cs with
  | case1 => cases h
  | case2 c rest hc ih => exact ih h
  | case3 c rest hc ih =>
    rcases List.mem_cons.mp h with rfl | h
    · refine ⟨by simp, fun d hd => ?_⟩
      rcases List.mem_cons.mp hd with rfl | hd
      · simpa using hc
      · simpa using List.all_eq_true.mp List.all_takeWhile d hd
    · exact ih h

/-- A word is its only word. -/
theorem words_of_isWord (h : IsWord w) : words w = [w] := by
  obtain ⟨hne, hblank⟩ := h
  induction w with
  | nil => exact absurd rfl hne
  | cons c w ih =>
    cases w with
    | nil => rw [words_cons (hblank c (by simp)) (by simp), words_nil]
    | cons d w =>
      rw [words_cons_cons (hblank c (by simp)) (hblank d (by simp)),
        ih (by simp) fun e he => hblank e (List.mem_cons_of_mem _ he)]
      rfl

/-- A text that does not end in a blank ends in a word, with a blank in front of it if something
stands there. -/
theorem exists_append_isWord (hne : cs ≠ []) (hlast : ∀ c ∈ cs.getLast?, isBlank c = false) :
    ∃ front w, cs = front ++ w ∧ IsWord w ∧ ∀ b ∈ front.getLast?, isBlank b = true := by
  obtain ⟨w, hsplit, hnoBlank⟩ := dropTrailing_append (fun c => !isBlank c) cs
  have hfront : ∀ b ∈ (dropTrailing (fun c => !isBlank c) cs).getLast?, isBlank b = true := by
    intro b hb
    have hkept : dropTrailing (fun c => !isBlank c) cs ≠ [] := by
      intro hnil
      rw [hnil] at hb
      cases hb
    obtain ⟨c, hc, hblank⟩ := exists_getLast?_dropTrailing hkept
    obtain rfl := Option.mem_unique hb hc
    simpa using hblank
  refine ⟨_, w, hsplit, ⟨?_, fun c hc => by simpa using hnoBlank c hc⟩, hfront⟩
  rintro rfl
  -- Without a word behind it, the text would end in the blank.
  rw [List.append_nil] at hsplit
  rw [← hsplit] at hfront
  have hblank := hfront _ (List.getLast?_eq_some_getLast hne)
  rw [hlast _ (List.getLast?_eq_some_getLast hne)] at hblank
  cases hblank

theorem flatMap_words_words (cs : List Char) : (words cs).flatMap words = words cs := by
  have hself : ∀ parts : List (List Char), (∀ w ∈ parts, IsWord w) →
      parts.flatMap words = parts := by
    intro parts h
    induction parts with
    | nil => rfl
    | cons w parts ih =>
      rw [List.flatMap_cons, words_of_isWord (h w (by simp)),
        ih fun v hv => h v (List.mem_cons_of_mem _ hv), List.singleton_append]
  exact hself _ fun w hw => isWord_of_mem_words hw

end Tutor.Text
