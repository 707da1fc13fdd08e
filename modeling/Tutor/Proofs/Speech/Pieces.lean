import Mathlib.Data.List.Infix
import Tutor.Proofs.Text.Trim
import Tutor.Speech.Voice

/-!
# Pieces of a text

A text is cut into pieces that fit a limit, wherever that can be done. Where it is cut, one of the
two characters at the cut is a place to cut. So a run of characters without such a place stays in
one piece, and a run that is longer than the limit can be in none. And that is the only obstacle: if
no first piece is found, the text begins with such a run.

* `HasLongRun`, `cutAll?_eq_none_iff` – the texts that cannot be cut.
* `flatten_of_cutAll?`, `length_le_of_cutAll?` – the pieces as they are cut.
* `IsCutInto`, `isCutInto_of_pieces?` – the pieces as they are spoken.
-/

namespace Tutor.Speech

open Tutor.Text

variable {limit : Nat} {c : Char} {cs piece rest : List Char} {pieces : List (List Char)}

/-! ### The first piece -/

/-- A text has a run of characters that is too long for a piece and has no place to cut it. -/
def HasLongRun (limit : Nat) (cs : List Char) : Prop :=
  ∃ run, run <:+: cs ∧ limit < run.length ∧ ∀ c ∈ run, isCut c = false

/-- A place to cut stands on one side of a cut. -/
def Parted (piece rest : List Char) : Prop :=
  (∃ c ∈ piece.getLast?, isCut c = true) ∨ ∃ c ∈ rest.head?, isCut c = true

theorem firstPiece_isPrefix (limit : Nat) (cs : List Char) :
    firstPiece limit cs <+: cs.take limit := by
  rw [firstPiece]
  split
  · exact List.prefix_refl _
  · obtain ⟨run, hsplit, -⟩ := dropTrailing_append (fun c => !isCut c) (cs.take limit)
    exact ⟨run, hsplit.symm⟩

/-- The first piece is a beginning of the text that fits, cut off at a place to cut. -/
theorem parted_of_cut? (h : cut? limit cs = some (piece, rest)) :
    cs = piece ++ rest ∧ piece.length ≤ limit ∧ Parted piece rest := by
  simp only [cut?] at h
  split at h
  · cases h
  next hne =>
    obtain ⟨rfl, rfl⟩ := Prod.mk.inj (Option.some.inj h)
    have hfront := firstPiece_isPrefix limit cs
    have hwhole := List.prefix_iff_eq_append.mp (hfront.trans (List.take_prefix limit cs))
    refine ⟨hwhole.symm, ?_, ?_⟩
    · have hlength := hfront.length_le
      rw [List.length_take] at hlength
      omega
    · rw [firstPiece] at hne ⊢
      split
      next hnext =>
        -- The piece is as long as it may be, because the character behind it is a place to cut.
        cases hdrop : cs.drop limit with
        | nil =>
          rw [hdrop] at hnext
          cases hnext
        | cons c more =>
          have hlength := congrArg List.length hdrop
          rw [List.length_drop, List.length_cons] at hlength
          rw [hdrop] at hnext
          refine .inr ⟨c, ?_, hnext⟩
          rw [List.length_take_of_le (by omega), hdrop]
          rfl
      next hnext =>
        rw [if_neg hnext] at hne
        obtain ⟨c, hc, hcut⟩ := exists_getLast?_dropTrailing (by simpa using hne)
        exact .inl ⟨c, hc, by simpa using hcut⟩

/-- Where there is no first piece, the text begins with a run without a place to cut. -/
theorem hasLongRun_of_cut? (hlimit : 1 ≤ limit) (hlong : limit < cs.length)
    (h : cut? limit cs = none) : HasLongRun limit cs := by
  simp only [cut?] at h
  split at h
  next hempty =>
    rw [firstPiece] at hempty
    split at hempty
    next =>
      have hlength : (cs.take limit).length = limit := List.length_take_of_le (Nat.le_of_lt hlong)
      rw [List.isEmpty_iff.mp hempty] at hlength
      exact absurd hlength (by simp; omega)
    next hnext =>
      -- Neither within the limit nor right behind it is a place to cut.
      refine ⟨cs.take (limit + 1), (List.take_prefix _ cs).isInfix, ?_, ?_⟩
      · rw [List.length_take]
        omega
      · have hfront := forall_of_dropTrailing_eq_nil (List.isEmpty_iff.mp hempty)
        intro c hc
        rw [List.take_add_one, List.mem_append] at hc
        rcases hc with hc | hc
        · simpa using hfront c hc
        · rw [List.head?_drop] at hnext
          cases hget : cs[limit]? with
          | none =>
            rw [hget] at hc
            cases hc
          | some d =>
            rw [hget] at hc hnext
            obtain rfl := List.mem_singleton.mp hc
            simpa using hnext
  · cases h

/-! ### All pieces -/

theorem HasLongRun.mono {as bs : List Char} (h : HasLongRun limit as) (hpart : as <:+: bs) :
    HasLongRun limit bs := by
  obtain ⟨run, hrun, hlong, hcut⟩ := h
  exact ⟨run, hrun.trans hpart, hlong, hcut⟩

/-- A run that is too long for a piece stands behind the first piece, if it stands anywhere. -/
theorem hasLongRun_append_iff (hfits : piece.length ≤ limit) (hparted : Parted piece rest) :
    HasLongRun limit (piece ++ rest) ↔ HasLongRun limit rest := by
  constructor
  · rintro ⟨run, hrun, hlong, hcut⟩
    rcases List.infix_append_iff.mp hrun with hpiece | hrest | ⟨left, right, rfl, hleft, hright⟩
    · have := hpiece.length_le
      omega
    · exact ⟨run, hrest, hlong, hcut⟩
    · -- The run goes up to the cut from one side, or has the place to cut in it.
      cases left with
      | nil => exact ⟨right, hright.isInfix, hlong, hcut⟩
      | cons a left =>
        cases right with
        | nil =>
          have := hleft.length_le
          rw [List.append_nil] at hlong
          omega
        | cons b right =>
          exfalso
          rcases hparted with ⟨c, hc, hplace⟩ | ⟨c, hc, hplace⟩
          · obtain ⟨front, rfl⟩ := hleft
            rw [List.getLast?_append_of_ne_nil _ (List.cons_ne_nil a left)] at hc
            have hmem : c ∈ (a :: left) ++ b :: right :=
              List.mem_append_left _ (List.mem_of_getLast? hc)
            rw [hcut c hmem] at hplace
            cases hplace
          · obtain ⟨back, rfl⟩ := hright
            obtain rfl : b = c := Option.some.inj hc
            have hmem : b ∈ (a :: left) ++ b :: right :=
              List.mem_append_right _ List.mem_cons_self
            rw [hcut b hmem] at hplace
            cases hplace
  · intro h
    exact h.mono (List.suffix_append piece rest).isInfix

/-- A text can be cut into pieces exactly if it has no long run. By induction on the cuts: a run
cannot go across a cut, so it is in the first piece, which is too short, or behind it. -/
theorem cutAll?_eq_none_iff (hlimit : 1 ≤ limit) :
    cutAll? limit cs = none ↔ HasLongRun limit cs := by
  fun_induction cutAll? limit cs with
  | case1 cs hlong piece rest hcut ih =>
    obtain ⟨rfl, hfits, hparted⟩ := parted_of_cut? hcut
    rw [Option.map_eq_none_iff, ih, hasLongRun_append_iff hfits hparted]
  | case2 cs hlong hcut =>
    exact iff_of_true rfl (hasLongRun_of_cut? hlimit hlong hcut)
  | case3 cs hshort =>
    refine iff_of_false (Option.some_ne_none _) ?_
    rintro ⟨run, hrun, hlong, -⟩
    have := hrun.length_le
    omega

theorem flatten_of_cutAll? (h : cutAll? limit cs = some pieces) : pieces.flatten = cs := by
  fun_induction cutAll? limit cs generalizing pieces with
  | case1 cs hlong piece rest hcut ih =>
    obtain ⟨rfl, -, -⟩ := parted_of_cut? hcut
    obtain ⟨more, hmore, rfl⟩ := Option.map_eq_some_iff.mp h
    rw [List.flatten_cons, ih hmore]
  | case2 => cases h
  | case3 cs hshort =>
    obtain rfl := Option.some.inj h
    rw [List.flatten_singleton]

theorem length_le_of_cutAll? (h : cutAll? limit cs = some pieces) :
    ∀ piece ∈ pieces, piece.length ≤ limit := by
  fun_induction cutAll? limit cs generalizing pieces with
  | case1 cs hlong piece rest hcut ih =>
    obtain ⟨-, hfits, -⟩ := parted_of_cut? hcut
    obtain ⟨more, hmore, rfl⟩ := Option.map_eq_some_iff.mp h
    exact List.forall_mem_cons.mpr ⟨hfits, ih hmore⟩
  | case2 => cases h
  | case3 cs hshort =>
    obtain rfl := Option.some.inj h
    intro piece hpiece
    obtain rfl := List.mem_singleton.mp hpiece
    omega

/-! ### Spoken pieces -/

/-- What the pieces of a text are: they fit, are not empty and have no blanks around them, and put
together they are the text, blanks aside. -/
structure IsCutInto (limit : Nat) (cs : List Char) (pieces : List (List Char)) : Prop where
  fits : ∀ piece ∈ pieces, piece.length ≤ limit
  filled : ∀ piece ∈ pieces, piece ≠ []
  trimmed : ∀ piece ∈ pieces, IsTrimmed piece
  whole : pieces.flatMap solid = solid cs

theorem isCutInto_of_pieces? (h : pieces? limit cs = some pieces) : IsCutInto limit cs pieces := by
  obtain ⟨whole, hcut, rfl⟩ := Option.map_eq_some_iff.mp h
  refine ⟨?_, ?_, ?_, ?_⟩
  · intro piece hpiece
    obtain ⟨raw, hraw, rfl⟩ := List.mem_map.mp (List.mem_filter.mp hpiece).1
    exact (length_trim_le raw).trans (length_le_of_cutAll? hcut raw hraw)
  · intro piece hpiece
    simpa using (List.mem_filter.mp hpiece).2
  · intro piece hpiece
    obtain ⟨raw, -, rfl⟩ := List.mem_map.mp (List.mem_filter.mp hpiece).1
    exact isTrimmed_trim raw
  · rw [flatMap_solid_trimmed, flatten_of_cutAll? hcut]

theorem pieces?_eq_none_iff (hlimit : 1 ≤ limit) :
    pieces? limit cs = none ↔ HasLongRun limit cs := by
  rw [pieces?, Option.map_eq_none_iff, cutAll?_eq_none_iff hlimit]

/-- A text that is not blank has a piece. -/
theorem IsCutInto.ne_nil (h : IsCutInto limit cs pieces) (hsolid : solid cs ≠ []) :
    pieces ≠ [] := by
  rintro rfl
  exact hsolid h.whole.symm

end Tutor.Speech
