import Mathlib.Data.List.Basic
import Tutor.Answer.Simplified
import Tutor.Proofs.Text.Cut
import Tutor.Proofs.Text.Trim

/-!
# What is found in a follow-up answer

Whatever layout a follow-up answer has, a part that is found in it says something: it is not empty,
and no blanks stand around it.

* `filled_of_ofBlocks?`, `filled_of_ofLines?`, `filled_of_ofKeyword?` – the layouts.
* `filled_of_mem_parts` – all follow-up answers.
-/

namespace Tutor.Text

theorem isTrimmed_joinWith {parts : List (List Char)}
    (h : ∀ part ∈ parts, IsTrimmed part ∧ part ≠ []) (sep : List Char) :
    IsTrimmed (joinWith sep parts) ∧ (parts ≠ [] → joinWith sep parts ≠ []) := by
  induction parts with
  | nil => exact ⟨⟨fun c hc => (by cases hc), fun c hc => (by cases hc)⟩, fun hne => absurd rfl hne⟩
  | cons part parts ih =>
    obtain ⟨⟨hpart, hne⟩, hparts⟩ := List.forall_mem_cons.mp h
    cases parts with
    | nil =>
      rw [joinWith_singleton]
      exact ⟨hpart, fun _ => hne⟩
    | cons next parts =>
      obtain ⟨hrest, hne'⟩ := ih hparts
      rw [joinWith_cons_cons]
      refine ⟨hpart.append hrest hne (hne' (List.cons_ne_nil _ _)) sep, fun _ => ?_⟩
      simp [hne]

end Tutor.Text

namespace Tutor.Answer

open Tutor.Text

variable {cs : List Char} {found : Simplified}

/-- The parts that were found. -/
def Simplified.parts (found : Simplified) : List String :=
  found.summary.toList ++ found.illustration.toList

/-- Parts of trimmed texts say something. -/
theorem filled_of_parts {as bs : List Char} (has : IsTrimmed as) (hbs : IsTrimmed bs) :
    ∀ s ∈ Simplified.parts ⟨nonEmpty? as, nonEmpty? bs⟩, Filled s := by
  intro s hs
  rcases List.mem_append.mp hs with hs | hs
  · exact filled_of_nonEmpty? has (Option.mem_toList.mp hs)
  · exact filled_of_nonEmpty? hbs (Option.mem_toList.mp hs)

theorem filled_of_ofBlocks? (h : ofBlocks? cs = some found) : ∀ s ∈ found.parts, Filled s := by
  rw [ofBlocks?] at h
  split at h
  · obtain rfl := Option.some.inj h
    exact filled_of_parts (isTrimmed_trim _) (isTrimmed_trim _)
  · cases h

/-- Lines that are not blank are trimmed, and so are lines put together. -/
theorem filled_of_ofLines? (h : ofLines? cs = some found) : ∀ s ∈ found.parts, Filled s := by
  have hlines : ∀ line ∈ ((splitWhere (· == '\n') cs).map trim).filter (fun l => !l.isEmpty),
      IsTrimmed line ∧ line ≠ [] := by
    intro line hline
    obtain ⟨hmem, hne⟩ := List.mem_filter.mp hline
    obtain ⟨raw, -, rfl⟩ := List.mem_map.mp hmem
    exact ⟨isTrimmed_trim raw, by simpa using hne⟩
  rw [ofLines?] at h
  split at h
  next first second more heq =>
    obtain rfl := Option.some.inj h
    rw [heq] at hlines
    have hfront : ∀ line ∈ [first, second], IsTrimmed line ∧ line ≠ [] := by
      intro line hline
      exact hlines line (List.mem_append_left more hline)
    have hback : ∀ line ∈ more, IsTrimmed line ∧ line ≠ [] := by
      intro line hline
      exact hlines line (List.mem_append_right [first, second] hline)
    exact filled_of_parts (isTrimmed_joinWith hfront _).1 (isTrimmed_joinWith hback _).1
  next => cases h

theorem filled_of_ofKeyword? (h : ofKeyword? cs = some found) : ∀ s ∈ found.parts, Filled s := by
  obtain ⟨⟨before, after⟩, -, rfl⟩ := Option.map_eq_some_iff.mp h
  exact filled_of_parts (isTrimmed_trim _) (isTrimmed_trim _)

/-- One of the layouts applied, and the first that did. -/
theorem layout_of_orElse (h : (ofBlocks? cs <|> ofLines? cs <|> ofKeyword? cs) = some found) :
    ofBlocks? cs = some found ∨ ofLines? cs = some found ∨ ofKeyword? cs = some found := by
  cases hblocks : ofBlocks? cs with
  | some byBlocks =>
    rw [hblocks] at h
    exact .inl h
  | none =>
    cases hlines : ofLines? cs with
    | some byLines =>
      rw [hblocks, hlines] at h
      exact .inr (.inl h)
    | none =>
      rw [hblocks, hlines] at h
      exact .inr (.inr h)

/-- Whatever a follow-up answer says, its summary and its example say something if they are there.
-/
theorem filled_of_mem_parts (text : String) :
    ∀ s ∈ (Simplified.ofText text).parts, Filled s := by
  rw [Simplified.ofText, simplifiedOf]
  split
  next hempty =>
    intro s hs
    cases hs
  next hne =>
    split
    next found hfound =>
      rcases layout_of_orElse hfound with h | h | h
      · exact filled_of_ofBlocks? h
      · exact filled_of_ofLines? h
      · exact filled_of_ofKeyword? h
    next hnone =>
      intro s hs
      obtain rfl := List.mem_singleton.mp hs
      refine ⟨?_, ?_⟩
      · rw [String.toList_ofList]
        simpa using hne
      · rw [String.toList_ofList]
        exact isTrimmed_trim _

end Tutor.Answer
