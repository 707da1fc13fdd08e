import Tutor.Proofs.Answer.Blocks

/-!
# The layout that is asked for

The model is asked for a summary and an example with a blank line between them. Where it keeps to
that, both are found as they are, whatever stands in them: the blanks between them make up one blank
line, which reaches exactly from the end of the one to the beginning of the other, and there is no
other one.

* `HasBlankLine`, `blocks_eq_singleton_iff` – texts of one block.
* `afterBlankLine?_append`, `blocks_layout` – two blocks and what separates them.
* `ofText_layout` – all follow-up answers in the layout.
-/

namespace Tutor.Answer

open Tutor.Text

variable {as bs cs gap : List Char} {s : String}

/-! ### One block -/

/-- A blank line stands somewhere in a text. -/
def HasBlankLine (cs : List Char) : Prop :=
  ∃ front back, cs = front ++ back ∧ BeginsBlankLine back

/-- A text is one block exactly if it has no blank line. -/
theorem blocks_eq_singleton_iff : blocks cs = [cs] ↔ ¬ HasBlankLine cs := by
  constructor
  · rintro hblocks ⟨front, back, rfl, hbegins⟩
    obtain ⟨before, rest, hfirst⟩ := exists_firstBlankLine front hbegins
    obtain ⟨after, htwo, -⟩ := blocks_of_firstBlankLine hfirst
    rw [htwo] at hblocks
    exact blocks_ne_nil after (List.cons.inj hblocks).2
  · intro hnone
    have hinside : ∀ front back, cs = front ++ back → back ≠ [] →
        ¬ BeginsBlankLine (back ++ []) := by
      intro front back hsplit _ hbegins
      rw [List.append_nil] at hbegins
      exact hnone ⟨front, back, hsplit, hbegins⟩
    obtain ⟨first, more, hnil, hblocks⟩ := exists_blocks_append hinside
    rw [blocks_nil] at hnil
    obtain ⟨rfl, rfl⟩ := List.cons.inj hnil
    rwa [List.append_nil] at hblocks

/-- A text that says something and has no blank line. -/
structure IsBlock (s : String) : Prop where
  filled : Filled s
  undivided : ¬ HasBlankLine s.toList

/-- A blank line begins neither inside a block nor with the blanks behind it, since it does not end
in a blank. -/
theorem IsBlock.not_begins (h : IsBlock s) (hsplit : s.toList = as ++ bs) (hne : bs ≠ [])
    (cs : List Char) : ¬ BeginsBlankLine (bs ++ cs) := by
  rintro ⟨gap, more, heq, hgap⟩
  have hline : bs ++ cs = ('\n' :: (gap ++ ['\n'])) ++ more := by simp [heq]
  rcases List.append_eq_append_iff.mp hline with ⟨rest, hlong, -⟩ | ⟨rest, hshort, -⟩
  · have hblank : ∀ c ∈ '\n' :: (gap ++ ['\n']), isBlank c = true := by
      intro c hc
      simp only [List.mem_cons, List.mem_append, List.not_mem_nil, or_false] at hc
      rcases hc with rfl | hc | rfl
      · decide
      · exact hgap c hc
      · decide
    have hlast : bs.getLast hne ∈ s.toList.getLast? := by
      rw [hsplit, List.getLast?_append_of_ne_nil _ hne]
      exact List.getLast?_eq_some_getLast hne
    have hmem : bs.getLast hne ∈ '\n' :: (gap ++ ['\n']) := by
      rw [hlong]
      exact List.mem_append_left _ (List.getLast_mem hne)
    have hsolid := h.filled.isTrimmed.last _ hlast
    rw [hblank _ hmem] at hsolid
    cases hsolid
  · refine h.undivided ⟨as, bs, hsplit, gap, rest, ?_, hgap⟩
    rw [hshort]
    simp

theorem IsBlock.nonEmpty?_trim (h : IsBlock s) : nonEmpty? (trim s.toList) = some s := by
  rw [trim_eq_self h.filled.isTrimmed, nonEmpty?, if_neg (by simpa using h.filled.ne_nil),
    String.ofList_toList]

/-! ### Two blocks -/

/-- A blank line reaches up to the first character that is not blank if a line break stands right
before that. -/
theorem afterBlankLine?_append (hgap : ∀ c ∈ gap, isBlank c = true)
    (hcs : ∀ c ∈ cs.head?, isBlank c = false) : afterBlankLine? (gap ++ '\n' :: cs) = some cs := by
  have hrun : ∀ c ∈ gap ++ ['\n'], isBlank c = true := by
    intro c hc
    rcases List.mem_append.mp hc with hc | hc
    · exact hgap c hc
    · rw [List.mem_singleton.mp hc]
      decide
  have hsplit : gap ++ '\n' :: cs = (gap ++ ['\n']) ++ cs := by simp
  simp only [afterBlankLine?]
  rw [hsplit, takeWhile_append_of_head? hrun hcs, dropWhile_append_of_head? hrun hcs,
    if_pos (by simp), List.reverse_append]
  rfl

/-- Two blocks with a blank line between them are two blocks. -/
theorem blocks_layout {summary illustration : String} (hsummary : IsBlock summary)
    (hillustration : IsBlock illustration) (hgap : ∀ c ∈ gap, isBlank c = true) :
    blocks (summary.toList ++ '\n' :: (gap ++ '\n' :: illustration.toList)) =
      [summary.toList, illustration.toList] := by
  obtain ⟨first, more, hrest, hblocks⟩ := exists_blocks_append fun front back hsplit hne =>
    hsummary.not_begins hsplit hne ('\n' :: (gap ++ '\n' :: illustration.toList))
  rw [blocks_of_blankLine (afterBlankLine?_append hgap hillustration.filled.isTrimmed.head),
    blocks_eq_singleton_iff.mpr hillustration.undivided] at hrest
  obtain ⟨rfl, rfl⟩ := List.cons.inj hrest
  rw [hblocks, List.append_nil]

theorem ofBlocks?_layout {summary illustration : String} (hsummary : IsBlock summary)
    (hillustration : IsBlock illustration) (hgap : ∀ c ∈ gap, isBlank c = true) :
    ofBlocks? (summary.toList ++ '\n' :: (gap ++ '\n' :: illustration.toList)) =
      some ⟨some summary, some illustration⟩ := by
  rw [ofBlocks?, blocks_layout hsummary hillustration hgap]
  simp only [joinWith_singleton, hsummary.nonEmpty?_trim, hillustration.nonEmpty?_trim]

/-- Where the model keeps to the layout, its summary and its example are found as they are, whatever
blanks stand around them and between the two line breaks. -/
theorem ofText_layout {before summary gap illustration after : String} (hsummary : IsBlock summary)
    (hillustration : IsBlock illustration) (hbefore : isBlankText before = true)
    (hgap : isBlankText gap = true) (hafter : isBlankText after = true) :
    Simplified.ofText (before ++ summary ++ "\n" ++ gap ++ "\n" ++ illustration ++ after) =
      ⟨some summary, some illustration⟩ := by
  rw [isBlankText, List.all_eq_true] at hbefore hgap hafter
  have htext : (before ++ summary ++ "\n" ++ gap ++ "\n" ++ illustration ++ after).toList =
      before.toList ++ ((summary.toList ++ '\n' :: (gap.toList ++ '\n' :: illustration.toList)) ++
        after.toList) := by
    simp
  have htrimmed : IsTrimmed
      (summary.toList ++ '\n' :: (gap.toList ++ '\n' :: illustration.toList)) := by
    have := hsummary.filled.isTrimmed.append hillustration.filled.isTrimmed
      hsummary.filled.ne_nil hillustration.filled.ne_nil ('\n' :: (gap.toList ++ ['\n']))
    simpa using this
  rw [Simplified.ofText, simplifiedOf, htext, trim_append_left hbefore, trim_append_right hafter,
    trim_eq_self htrimmed, ofBlocks?_layout hsummary hillustration hgap, if_neg (by simp)]
  rfl

/-- Two blocks of two lines each that speak of examples, and line breaks among the blanks between
them. -/
theorem ofText_layout_of_lines :
    IsBlock "For example,\nit falls." ∧ IsBlock "Example: an\napple." ∧
      isBlankText " \r\n" = true ∧ isBlankText "\t\n \n" = true ∧ isBlankText "\n" = true ∧
      Simplified.ofText (" \r\n" ++ "For example,\nit falls." ++ "\n" ++ "\t\n \n" ++ "\n" ++
        "Example: an\napple." ++ "\n") =
        ⟨some "For example,\nit falls.", some "Example: an\napple."⟩ := by
  have hsummary : IsBlock "For example,\nit falls." :=
    ⟨⟨by decide, isTrimmed_iff.mpr (by decide +kernel)⟩,
      blocks_eq_singleton_iff.mp (by decide +kernel)⟩
  have hillustration : IsBlock "Example: an\napple." :=
    ⟨⟨by decide, isTrimmed_iff.mpr (by decide +kernel)⟩,
      blocks_eq_singleton_iff.mp (by decide +kernel)⟩
  exact ⟨hsummary, hillustration, by decide, by decide, by decide,
    ofText_layout hsummary hillustration (by decide) (by decide) (by decide)⟩

end Tutor.Answer
