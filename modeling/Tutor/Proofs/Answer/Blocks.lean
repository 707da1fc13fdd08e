import Tutor.Proofs.Answer.Simplified

/-!
# What the parts of a follow-up answer hold

The summary and the example that are found in a follow-up answer hold all of it, blanks aside, and
nothing else, whatever layout it has. Where it has a blank line, the summary is what stands before
the first one, and there is an example too.

* `solid_flatten_blocks`, `solid_flatten_lines`, `eq_append_of_findWord?` – where a text is divided.
* `solid_parts_of_ofBlocks?`, `solid_parts_of_ofLines?`, `solid_parts_of_ofKeyword?` – the layouts.
* `FirstBlankLine`, `blocks_of_firstBlankLine` – the first block.
* `divided_ofText` – all follow-up answers.
-/

namespace Tutor.Answer

open Tutor.Text

variable {c : Char} {cs as bs before rest after : List Char} {found : Simplified}

/-! ### Blank lines -/

/-- A text begins with a blank line: a line break, blanks, and a line break. -/
def BeginsBlankLine (cs : List Char) : Prop :=
  ∃ gap more, cs = '\n' :: (gap ++ '\n' :: more) ∧ ∀ c ∈ gap, isBlank c = true

/-- The run of blanks at the front, and what follows it. -/
theorem exists_run (cs : List Char) :
    ∃ run more, cs = run ++ more ∧ (∀ c ∈ run, isBlank c = true) ∧
      run = cs.takeWhile isBlank ∧ more = cs.dropWhile isBlank :=
  ⟨_, _, List.takeWhile_append_dropWhile.symm, List.all_eq_true.mp List.all_takeWhile, rfl, rfl⟩

theorem solid_of_afterBlankLine? (h : afterBlankLine? rest = some after) :
    solid after = solid rest := by
  obtain ⟨run, more, hrest, hblank, hrun, hmore⟩ := exists_run rest
  simp only [afterBlankLine?, ← hrun, ← hmore] at h
  split at h
  · obtain rfl := Option.some.inj h
    have hkept : ∀ c ∈ (run.reverse.takeWhile (· != '\n')).reverse, isBlank c = true := by
      intro c hc
      apply hblank
      rw [← List.mem_reverse]
      exact (List.takeWhile_subset _) (List.mem_reverse.mp hc)
    rw [hrest, solid_append, solid_append, solid_eq_nil hkept, solid_eq_nil hblank]
  · cases h

theorem afterBlankLine?_eq_none_iff :
    afterBlankLine? rest = none ↔ ¬ BeginsBlankLine ('\n' :: rest) := by
  obtain ⟨run, more, hrest, hblank, hrun, hmore⟩ := exists_run rest
  simp only [afterBlankLine?, ← hrun, ← hmore]
  split
  next hbreak =>
    refine iff_of_false (Option.some_ne_none _) (not_not_intro ?_)
    obtain ⟨gap, behind, rfl⟩ := List.append_of_mem (List.contains_iff_mem.mp hbreak)
    refine ⟨gap, behind ++ more, ?_, fun c hc => hblank c (List.mem_append_left _ hc)⟩
    rw [hrest, List.append_assoc, List.cons_append]
  next hbreak =>
    refine iff_of_true rfl ?_
    rintro ⟨gap, behind, hcs, hgap⟩
    -- The second line break would belong to the run of blanks.
    apply hbreak
    rw [List.contains_iff_mem, hrun, (List.cons.inj hcs).2, List.takeWhile_append_of_pos hgap]
    exact List.mem_append_right _ List.mem_cons_self

theorem blocks_of_blankLine (h : afterBlankLine? rest = some after) :
    blocks ('\n' :: rest) = [] :: blocks after := by
  rw [blocks]
  split
  next after' heq =>
    rw [if_pos rfl, h] at heq
    obtain rfl := Option.some.inj heq
    rfl
  next heq =>
    rw [if_pos rfl, h] at heq
    cases heq

theorem blocks_of_not_begins (h : ¬ BeginsBlankLine (c :: cs)) :
    blocks (c :: cs) = prependToFirst c (blocks cs) := by
  rw [blocks]
  split
  next after heq =>
    split at heq
    next hc =>
      rw [hc] at h
      rw [afterBlankLine?_eq_none_iff.mpr h] at heq
      cases heq
    next => cases heq
  next => rfl

/-! ### Dividing a text -/

theorem flatten_prependToFirst (c : Char) (parts : List (List Char)) :
    (prependToFirst c parts).flatten = c :: parts.flatten := by
  cases parts with
  | nil => rfl
  | cons part parts => rfl

theorem solid_cons_of_isBlank (hc : isBlank c = true) (cs : List Char) :
    solid (c :: cs) = solid cs := by
  rw [solid, List.filter_cons, hc]
  rfl

theorem solid_cons (c : Char) (cs : List Char) : solid (c :: cs) = solid [c] ++ solid cs :=
  solid_append [c] cs

/-- Between the blocks of a text stand blanks only. -/
theorem solid_flatten_blocks (cs : List Char) : solid (blocks cs).flatten = solid cs := by
  fun_induction blocks cs with
  | case1 => rfl
  | case2 c rest after h ih =>
    split at h
    next hc =>
      rw [List.flatten_cons, List.nil_append, ih, solid_of_afterBlankLine? h,
        solid_cons_of_isBlank (by rw [hc]; decide)]
    next => cases h
  | case3 c rest h ih =>
    rw [flatten_prependToFirst, solid_cons, ih, ← solid_cons]

/-- Between the lines of a text stand line breaks only. -/
theorem solid_flatten_lines (cs : List Char) :
    solid (splitWhere (· == '\n') cs).flatten = solid cs := by
  induction cs with
  | nil => rfl
  | cons c cs ih =>
    obtain ⟨first, more, hsplit⟩ := List.exists_cons_of_ne_nil (splitWhere_ne_nil (· == '\n') cs)
    rw [splitWhere]
    split
    next hc =>
      rw [List.flatten_cons, List.nil_append, ih,
        solid_cons_of_isBlank (by rw [beq_iff_eq.mp hc]; decide)]
    next =>
      rw [hsplit] at ih ⊢
      rw [solid_cons, ← ih, ← solid_cons]
      rfl

theorem eq_append_of_findWord? {word : List Char} (h : findWord? word cs = some (as, bs)) :
    cs = as ++ bs := by
  induction cs generalizing as with
  | nil => cases h
  | cons c cs ih =>
    rw [findWord?] at h
    split at h
    · obtain ⟨rfl, rfl⟩ := Prod.mk.inj (Option.some.inj h)
      rfl
    · obtain ⟨⟨before, after⟩, hfind, hcons⟩ := Option.map_eq_some_iff.mp h
      obtain ⟨rfl, rfl⟩ := Prod.mk.inj hcons
      rw [ih hfind, List.cons_append]

/-- Parts put together with blanks between them hold what they hold. -/
theorem solid_joinWith {sep : List Char} (hsep : sep.all isBlank = true) :
    ∀ parts : List (List Char), solid (joinWith sep parts) = parts.flatMap solid
  | [] => rfl
  | [part] => by rw [joinWith_singleton, List.flatMap_singleton]
  | first :: next :: parts => by
    rw [joinWith_cons_cons, solid_append, solid_append, solid_eq_nil (List.all_eq_true.mp hsep),
      List.nil_append, solid_joinWith hsep (next :: parts)]
    rfl

theorem solid_flatten (parts : List (List Char)) : solid parts.flatten = parts.flatMap solid := by
  rw [solid, List.filter_flatten, List.flatMap_def]
  rfl

/-! ### The layouts -/

/-- What the parts that were found hold. -/
def Simplified.solid (found : Simplified) : List Char :=
  found.parts.flatMap fun s => Text.solid s.toList

theorem flatMap_nonEmpty? (cs : List Char) :
    (nonEmpty? cs).toList.flatMap (fun s => Text.solid s.toList) = Text.solid cs := by
  rw [nonEmpty?]
  split
  next hempty =>
    rw [List.isEmpty_iff.mp hempty]
    rfl
  next =>
    show ([String.ofList cs] : List String).flatMap _ = _
    rw [List.flatMap_singleton, String.toList_ofList]

theorem solid_parts (as bs : List Char) :
    Simplified.solid ⟨nonEmpty? as, nonEmpty? bs⟩ = Text.solid as ++ Text.solid bs := by
  rw [Simplified.solid, Simplified.parts, List.flatMap_append, flatMap_nonEmpty?,
    flatMap_nonEmpty?]

theorem solid_parts_of_ofBlocks? (h : ofBlocks? cs = some found) :
    found.solid = Text.solid cs := by
  rw [ofBlocks?] at h
  split at h
  next first second more hblocks =>
    obtain rfl := Option.some.inj h
    rw [solid_parts, solid_trim, solid_trim, solid_joinWith (by decide), ← List.flatMap_cons,
      ← solid_flatten, ← hblocks, solid_flatten_blocks]
  next => cases h

theorem solid_parts_of_ofLines? (h : ofLines? cs = some found) : found.solid = Text.solid cs := by
  rw [ofLines?] at h
  split at h
  next first second more hlines =>
    obtain rfl := Option.some.inj h
    rw [solid_parts, solid_joinWith (by decide), solid_joinWith (by decide), ← List.flatMap_append,
      ← solid_flatten_lines, ← flatMap_solid_trimmed, hlines]
    rfl
  next => cases h

theorem solid_parts_of_ofKeyword? (h : ofKeyword? cs = some found) :
    found.solid = Text.solid cs := by
  obtain ⟨⟨before, after⟩, hfind, rfl⟩ := Option.map_eq_some_iff.mp h
  dsimp only
  rw [solid_parts, solid_trim, solid_trim, ← solid_append, ← eq_append_of_findWord? hfind]

/-! ### The first blank line -/

theorem blocks_nil : blocks [] = [[]] := by
  rw [blocks]

theorem blocks_ne_nil (cs : List Char) : blocks cs ≠ [] := by
  fun_induction blocks cs with
  | case1 => exact List.cons_ne_nil _ _
  | case2 => exact List.cons_ne_nil _ _
  | case3 c rest =>
    unfold prependToFirst
    split <;> exact List.cons_ne_nil _ _

/-- What stands before every blank line belongs to the first block. -/
theorem exists_blocks_append
    (h : ∀ front back, as = front ++ back → back ≠ [] → ¬ BeginsBlankLine (back ++ bs)) :
    ∃ first more, blocks bs = first :: more ∧ blocks (as ++ bs) = (as ++ first) :: more := by
  induction as with
  | nil =>
    obtain ⟨first, more, hblocks⟩ := List.exists_cons_of_ne_nil (blocks_ne_nil bs)
    exact ⟨first, more, hblocks, hblocks⟩
  | cons a as ih =>
    obtain ⟨first, more, hbs, hblocks⟩ := ih fun front back hsplit =>
      h (a :: front) back (by rw [hsplit, List.cons_append])
    have hnone : ¬ BeginsBlankLine (a :: (as ++ bs)) := h [] (a :: as) rfl (List.cons_ne_nil _ _)
    refine ⟨first, more, hbs, ?_⟩
    rw [List.cons_append, blocks_of_not_begins hnone, hblocks]
    rfl

/-- A text is divided at its first blank line. -/
structure FirstBlankLine (cs before rest : List Char) : Prop where
  whole : cs = before ++ rest
  begins : BeginsBlankLine rest
  first : ∀ front back, before = front ++ back → back ≠ [] → ¬ BeginsBlankLine (back ++ rest)

/-- A text with a blank line has a first one. By induction on what stands before the one it has. -/
theorem exists_firstBlankLine (front : List Char) (h : BeginsBlankLine bs) :
    ∃ before rest, FirstBlankLine (front ++ bs) before rest := by
  induction front with
  | nil =>
    refine ⟨[], bs, rfl, h, fun front back hsplit hne => absurd ?_ hne⟩
    exact (List.append_eq_nil_iff.mp hsplit.symm).2
  | cons c front ih =>
    by_cases hbegins : BeginsBlankLine (c :: (front ++ bs))
    · refine ⟨[], c :: (front ++ bs), rfl, hbegins, fun front back hsplit hne => absurd ?_ hne⟩
      exact (List.append_eq_nil_iff.mp hsplit.symm).2
    · obtain ⟨before, rest, hfirst⟩ := ih
      refine ⟨c :: before, rest, by rw [List.cons_append, hfirst.whole, List.cons_append],
        hfirst.begins, fun front' back hsplit hne => ?_⟩
      rcases List.cons_eq_append_iff.mp hsplit with ⟨rfl, rfl⟩ | ⟨front'', rfl, hmore⟩
      · rwa [List.cons_append, ← hfirst.whole]
      · exact hfirst.first front'' back hmore hne

/-- What stands before the first blank line is the first block, and the rest is in the others. -/
theorem blocks_of_firstBlankLine (h : FirstBlankLine cs before rest) :
    ∃ after, blocks cs = before :: blocks after ∧ solid after = solid rest := by
  obtain ⟨first, others, hrest, hblocks⟩ := exists_blocks_append h.first
  obtain ⟨gap, more, rfl, hgap⟩ := h.begins
  cases hafter : afterBlankLine? (gap ++ '\n' :: more) with
  | none => exact absurd h.begins (afterBlankLine?_eq_none_iff.mp hafter)
  | some after =>
    rw [blocks_of_blankLine hafter] at hrest
    obtain ⟨rfl, rfl⟩ := List.cons.inj hrest
    refine ⟨after, ?_, ?_⟩
    · rw [h.whole, hblocks, List.append_nil]
    · rw [solid_of_afterBlankLine? hafter, solid_cons_of_isBlank (by decide)]

/-! ### All follow-up answers -/

/-- How a follow-up answer is divided into summary and example. -/
structure Divided (text : String) (found : Simplified) : Prop where
  /-- They hold all of it, and nothing else, blanks aside. -/
  whole : found.solid = Text.solid text.toList
  filled : ∀ s ∈ found.parts, Filled s
  absent : found.summary = none ∧ found.illustration = none ↔ isBlankText text = true
  /-- If there is a blank line, the summary is what stands before the first, and there is an
  example. -/
  parted : ∀ front back, trim text.toList = front ++ back → BeginsBlankLine back →
    ∃ before rest, FirstBlankLine (trim text.toList) before rest ∧
      found.summary = some (String.ofList (trim before)) ∧ found.illustration ≠ none

theorem solid_ofText (text : String) :
    (Simplified.ofText text).solid = Text.solid text.toList := by
  rw [Simplified.ofText, simplifiedOf, ← solid_trim text.toList]
  generalize trim text.toList = cs
  split
  next hempty =>
    rw [List.isEmpty_iff.mp hempty]
    rfl
  next =>
    split
    next found hfound =>
      rcases layout_of_orElse hfound with h | h | h
      · exact solid_parts_of_ofBlocks? h
      · exact solid_parts_of_ofLines? h
      · exact solid_parts_of_ofKeyword? h
    next =>
      show ([String.ofList cs] : List String).flatMap _ = _
      rw [List.flatMap_singleton, String.toList_ofList]

/-- Nothing is found exactly if there is nothing. -/
theorem absent_iff (text : String) :
    (Simplified.ofText text).summary = none ∧ (Simplified.ofText text).illustration = none ↔
      isBlankText text = true := by
  rw [← solid_eq_nil_iff, ← solid_ofText]
  constructor
  · rintro ⟨hsummary, hexample⟩
    rw [Simplified.solid, Simplified.parts, hsummary, hexample]
    rfl
  · intro hsolid
    -- A part that was found says something, so it would hold something.
    have hparts : (Simplified.ofText text).parts = [] := by
      rw [List.eq_nil_iff_forall_not_mem]
      intro s hs
      have hnone := List.flatMap_eq_nil_iff.mp hsolid s hs
      rw [solid_eq_nil_iff, (filled_of_mem_parts text s hs).isBlankText] at hnone
      cases hnone
    obtain ⟨hsummary, hexample⟩ := List.append_eq_nil_iff.mp hparts
    exact ⟨Option.toList_eq_nil_iff.mp hsummary, Option.toList_eq_nil_iff.mp hexample⟩

theorem nonEmpty?_of_solid (h : Text.solid cs ≠ []) :
    nonEmpty? (trim cs) = some (String.ofList (trim cs)) := by
  rw [nonEmpty?, if_neg]
  rw [← solid_trim] at h
  intro hempty
  rw [List.isEmpty_iff.mp hempty] at h
  exact h rfl

theorem solid_ne_nil_of_mem (hc : c ∈ cs) (hblank : isBlank c = false) : Text.solid cs ≠ [] :=
  List.ne_nil_of_mem (List.mem_filter.mpr ⟨hc, by rw [hblank]; rfl⟩)

/-- On both sides of a blank line of a trimmed text stands something. -/
theorem FirstBlankLine.solid_ne_nil (h : FirstBlankLine cs before rest) (hcs : IsTrimmed cs) :
    Text.solid before ≠ [] ∧ Text.solid rest ≠ [] := by
  obtain ⟨gap, more, hrest, -⟩ := h.begins
  have hwhole := h.whole
  constructor
  · cases before with
    | nil =>
      -- A text that begins with a line break is not trimmed.
      have hhead := hcs.head '\n' (by rw [hwhole, hrest]; rfl)
      cases hhead
    | cons c before =>
      have hhead := hcs.head c (by rw [hwhole]; rfl)
      exact solid_ne_nil_of_mem List.mem_cons_self hhead
  · have hne : rest ≠ [] := by rw [hrest]; exact List.cons_ne_nil _ _
    have hlast := hcs.last (rest.getLast hne) (by
      rw [hwhole, List.getLast?_append_of_ne_nil _ hne]
      exact List.getLast?_eq_some_getLast hne)
    exact solid_ne_nil_of_mem (List.getLast_mem hne) hlast

/-- A trimmed text with a blank line is divided there. -/
theorem ofBlocks?_of_firstBlankLine (h : FirstBlankLine cs before rest) (hcs : IsTrimmed cs) :
    ∃ found, ofBlocks? cs = some found ∧
      found.summary = some (String.ofList (trim before)) ∧ found.illustration ≠ none := by
  obtain ⟨after, hblocks, hsolid⟩ := blocks_of_firstBlankLine h
  obtain ⟨hbefore, hrest⟩ := h.solid_ne_nil hcs
  have hafter := solid_flatten_blocks after
  rw [ofBlocks?, hblocks]
  cases hmore : blocks after with
  | nil =>
    -- What stands behind the blank line is in some block.
    rw [hmore, hsolid] at hafter
    exact absurd hafter.symm hrest
  | cons second more =>
    refine ⟨_, rfl, nonEmpty?_of_solid hbefore, ?_⟩
    dsimp only
    rw [nonEmpty?_of_solid]
    · exact Option.some_ne_none _
    · rwa [solid_joinWith (by decide), ← solid_flatten, ← hmore, hafter, hsolid]

/-- Nothing is lost of a follow-up answer, and nothing invented. -/
theorem divided_ofText (text : String) : Divided text (Simplified.ofText text) where
  whole := solid_ofText text
  filled := filled_of_mem_parts text
  absent := absent_iff text
  parted front back hsplit hbegins := by
    obtain ⟨before, rest, hfirst⟩ := exists_firstBlankLine front hbegins
    rw [← hsplit] at hfirst
    obtain ⟨found, hfound, hsummary, hexample⟩ :=
      ofBlocks?_of_firstBlankLine hfirst (isTrimmed_trim _)
    have hne : (trim text.toList).isEmpty = false := by
      obtain ⟨gap, more, hrest, -⟩ := hbegins
      rw [hsplit, hrest, List.isEmpty_eq_false_iff]
      exact List.append_ne_nil_of_right_ne_nil _ (List.cons_ne_nil _ _)
    have hofText : Simplified.ofText text = found := by
      rw [Simplified.ofText, simplifiedOf, hne, hfound]
      rfl
    refine ⟨before, rest, hfirst, ?_⟩
    rw [hofText]
    exact ⟨hsummary, hexample⟩

end Tutor.Answer
