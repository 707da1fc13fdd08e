import Tutor.Proofs.Speech.Pieces
import Tutor.Proofs.Text.Cut

/-!
# Runs without a place to cut

Between its places to cut, a text falls into runs. A cut goes through none of them, since a place to
cut stands on one side of it, and trimming a piece drops places to cut only. So the pieces of a text
have its runs, each in one piece, in the order of the text.

* `runs`, `runs_append` – the runs of a text, and of texts put together.
* `mem_runs` – what stands between two places to cut is a run.
* `undivided_pieces` – which texts can be cut, and into what.
-/

namespace Tutor.Speech

open Tutor.Text

variable {limit : Nat} {c : Char} {cs as bs run : List Char} {pieces : List (List Char)}

/-! ### The runs of a text -/

/-- The runs of characters without a place to cut, each as long as it can be, in order. -/
def runs (cs : List Char) : List (List Char) :=
  (splitWhere isCut cs).filter fun run => !run.isEmpty

theorem runs_nil : runs [] = [] := rfl

theorem runs_cut (hc : isCut c = true) (as bs : List Char) :
    runs (as ++ c :: bs) = runs as ++ runs bs := by
  rw [runs, splitWhere_append hc, List.filter_append]
  rfl

theorem runs_of_forall (h : ∀ c ∈ cs, isCut c = true) : runs cs = [] := by
  induction cs with
  | nil => rfl
  | cons c cs ih =>
    have hc := h c List.mem_cons_self
    have hcs := ih fun d hd => h d (List.mem_cons_of_mem _ hd)
    rw [← List.nil_append (c :: cs), runs_cut hc, hcs, runs_nil]
    rfl

theorem runs_of_uncut (hne : run ≠ []) (h : ∀ c ∈ run, isCut c = false) : runs run = [run] := by
  rw [runs, splitWhere_of_none h, List.filter_cons, if_pos (by simpa using hne), List.filter_nil]

/-- A cut beside a place to cut goes through no run. -/
theorem runs_append (h : Parted as bs) : runs (as ++ bs) = runs as ++ runs bs := by
  rcases h with ⟨c, hc, hcut⟩ | ⟨c, hc, hcut⟩
  · obtain ⟨front, rfl⟩ := List.getLast?_eq_some_iff.mp hc
    have hfront : runs (front ++ [c]) = runs front := by
      rw [runs_cut hcut, runs_nil, List.append_nil]
    rw [List.append_assoc, List.singleton_append, runs_cut hcut, hfront]
  · obtain ⟨back, rfl⟩ := List.head?_eq_some_iff.mp hc
    have hback : runs (c :: back) = runs back := by
      rw [← List.nil_append (c :: back), runs_cut hcut, runs_nil, List.nil_append]
    rw [runs_cut hcut, hback]

/-- Places to cut around a text add no run. -/
theorem runs_around (has : ∀ c ∈ as, isCut c = true) (hbs : ∀ c ∈ bs, isCut c = true) :
    runs (as ++ (cs ++ bs)) = runs cs := by
  have hback : runs (cs ++ bs) = runs cs := by
    cases bs with
    | nil => rw [List.append_nil]
    | cons b bs =>
      rw [runs_append (.inr ⟨b, rfl, hbs b List.mem_cons_self⟩), runs_of_forall hbs,
        List.append_nil]
  cases hlast : as.getLast? with
  | none =>
    rw [List.getLast?_eq_none_iff.mp hlast, List.nil_append, hback]
  | some a =>
    have ha := has a (List.mem_of_getLast? hlast)
    rw [runs_append (.inl ⟨a, hlast, ha⟩), runs_of_forall has, List.nil_append, hback]

/-- A text between two others is a run of the whole if it has no place to cut and the places right
before and behind it, if there is something, are such places. -/
structure IsRun (before run behind : List Char) : Prop where
  ne_nil : run ≠ []
  uncut : ∀ c ∈ run, isCut c = false
  before : ∀ c ∈ before.getLast?, isCut c = true
  behind : ∀ c ∈ behind.head?, isCut c = true

theorem mem_runs (h : IsRun as run bs) : run ∈ runs (as ++ (run ++ bs)) := by
  have hrun := runs_of_uncut h.ne_nil h.uncut
  have hback : runs (run ++ bs) = run :: runs bs := by
    cases bs with
    | nil => rw [List.append_nil, hrun, runs_nil]
    | cons b bs =>
      rw [runs_append (.inr ⟨b, rfl, h.behind b rfl⟩), hrun]
      rfl
  cases hlast : as.getLast? with
  | none =>
    rw [List.getLast?_eq_none_iff.mp hlast, List.nil_append, hback]
    exact List.mem_cons_self
  | some a =>
    rw [runs_append (.inl ⟨a, hlast, h.before a hlast⟩), hback]
    exact List.mem_append_right _ List.mem_cons_self

theorem isInfix_of_mem_runs (h : run ∈ runs cs) : run <:+: cs :=
  isInfix_of_mem_splitWhere (List.mem_filter.mp h).1

/-! ### The runs of pieces -/

/-- The pieces of a text have its runs as they are cut. By induction on the cuts. -/
theorem flatMap_runs_of_cutAll? (h : cutAll? limit cs = some pieces) :
    pieces.flatMap runs = runs cs := by
  fun_induction cutAll? limit cs generalizing pieces with
  | case1 cs hlong piece rest hcut ih =>
    obtain ⟨rfl, -, hparted⟩ := parted_of_cut? hcut
    obtain ⟨more, hmore, rfl⟩ := Option.map_eq_some_iff.mp h
    rw [List.flatMap_cons, ih hmore, runs_append hparted]
  | case2 => cases h
  | case3 cs hshort =>
    obtain rfl := Option.some.inj h
    rw [List.flatMap_singleton]

theorem isCut_of_isBlank (h : isBlank c = true) : isCut c = true := by
  rw [isCut, h, Bool.true_or]

theorem runs_trim (cs : List Char) : runs (trim cs) = runs cs := by
  obtain ⟨front, back, hsplit, hfront, hback⟩ := exists_trim cs
  have hruns := congrArg runs hsplit
  rw [runs_around (fun c hc => isCut_of_isBlank (hfront c hc))
    fun c hc => isCut_of_isBlank (hback c hc)] at hruns
  exact hruns.symm

/-- They still have them once they are trimmed and the blank ones are dropped. -/
theorem flatMap_runs_trimmed (pieces : List (List Char)) :
    ((pieces.map trim).filter fun piece => !piece.isEmpty).flatMap runs = pieces.flatMap runs := by
  induction pieces with
  | nil => rfl
  | cons piece pieces ih =>
    rw [List.map_cons, List.flatMap_cons, ← ih, ← runs_trim piece, List.filter_cons]
    split
    · rw [List.flatMap_cons]
    next hempty =>
      have hnil : trim piece = [] := by simpa using hempty
      rw [hnil, runs_nil, List.nil_append]

/-- No run of a text is divided between two pieces. -/
structure Undivided (cs : List Char) (pieces : List (List Char)) : Prop where
  /-- The runs of the pieces are those of the text, one after another. -/
  inOrder : pieces.flatMap runs = runs cs
  /-- Every run stands in one of the pieces. -/
  together : ∀ before run behind, cs = before ++ (run ++ behind) → IsRun before run behind →
    ∃ piece ∈ pieces, run <:+: piece

/-- A text is cut into pieces unless it has a run that is too long for one. The pieces fit, are
trimmed and not empty, hold the text but for blanks, and divide no run of it. -/
theorem undivided_pieces (limit : Nat) (hlimit : 1 ≤ limit) (cs : List Char) :
    (pieces? limit cs = none ↔ HasLongRun limit cs) ∧
      ∀ pieces, pieces? limit cs = some pieces →
        IsCutInto limit cs pieces ∧ Undivided cs pieces := by
  refine ⟨pieces?_eq_none_iff hlimit, fun pieces hpieces => ⟨isCutInto_of_pieces? hpieces, ?_⟩⟩
  have hruns : pieces.flatMap runs = runs cs := by
    obtain ⟨raw, hraw, rfl⟩ := Option.map_eq_some_iff.mp hpieces
    rw [flatMap_runs_trimmed, flatMap_runs_of_cutAll? hraw]
  refine ⟨hruns, ?_⟩
  rintro before run behind rfl hrun
  have hmem := mem_runs hrun
  rw [← hruns] at hmem
  obtain ⟨piece, hpiece, hmem⟩ := List.mem_flatMap.mp hmem
  exact ⟨piece, hpiece, isInfix_of_mem_runs hmem⟩

/-- A text with a run that just fits, so that it is cut in front of a place to cut. -/
theorem undivided_of_exact_fit :
    1 ≤ 5 ∧ pieces? 5 "abcde,fg h".toList = some ["abcde".toList, ",fg h".toList] ∧
      ¬ HasLongRun 5 "abcde,fg h".toList ∧
      IsCutInto 5 "abcde,fg h".toList ["abcde".toList, ",fg h".toList] ∧
      Undivided "abcde,fg h".toList ["abcde".toList, ",fg h".toList] := by
  have hpieces : pieces? 5 "abcde,fg h".toList = some ["abcde".toList, ",fg h".toList] := by
    decide +kernel
  obtain ⟨hnone, hsome⟩ := undivided_pieces 5 (by decide) "abcde,fg h".toList
  refine ⟨by decide, hpieces, fun hlong => ?_, hsome _ hpieces⟩
  rw [hnone.mpr hlong] at hpieces
  cases hpieces

end Tutor.Speech
