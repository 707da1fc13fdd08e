import Mathlib.Data.List.Forall2
import Mathlib.Data.List.Nodup
import Mathlib.Tactic.Common
import Tutor.Proofs.Json.Record

/-!
# What was given for a field

A field of a record was given, or it was not. What is read of it follows from that: the value that
was given, if it is of the kind that is wanted, or the default. Here this is said field by field,
and for the kinds of values that records hold: lists, natural numbers and what may be null.

* `Given`, `record_eq_ok_iff_given` – a record by what was given for each field.
* `Layout.only`, `record_only_eq_ok_iff` – records of one field.
* `IsNatural`, `natural_eq_ok_iff` – the literals that are natural numbers of 64 bits.
-/

namespace Tutor.Json

open Tutor.Number

/-! ### Fields -/

/-- A value of a kind was given for a field; or none was, and something else holds. -/
def Given {κ : Type} (given : List (κ × Tree)) (k : κ) (kind : Tree → Prop) (otherwise : Prop) :
    Prop :=
  (∃ t, (k, t) ∈ given ∧ kind t) ∨ (∀ t, (k, t) ∉ given) ∧ otherwise

namespace Layout

variable {ρ κ : Type} {V : κ → Type} {x : Layout ρ κ V} {given : List (κ × Tree)} {start r : ρ}
  {t : Tree} {keys : List κ}

/-- What is read, field by field. No field is given twice, so there is one value for each that is
given. -/
theorem reads_iff_given (hgiven : (given.map Prod.fst).Nodup) :
    x.Reads given start r ↔
      ∀ k, Given given k (fun t => x.decode k t = .ok (x.get k r)) (x.get k r = x.get k start) := by
  constructor
  · intro h k
    by_cases hk : ∃ t, (k, t) ∈ given
    · obtain ⟨t, hmem⟩ := hk
      exact .inl ⟨t, hmem, h.decoded k t hmem⟩
    · have hnone : ∀ t, (k, t) ∉ given := fun t hmem => hk ⟨t, hmem⟩
      exact .inr ⟨hnone, h.kept k hnone⟩
  · intro h
    refine ⟨fun k t hmem => ?_, fun k hnone => ?_⟩
    · rcases h k with ⟨t', hmem', hdecode⟩ | ⟨hnone, -⟩
      · have hsame := List.inj_on_of_nodup_map hgiven hmem hmem' rfl
        obtain rfl := (Prod.mk.inj hsame).2
        exact hdecode
      · exact absurd hmem (hnone t)
    · rcases h k with ⟨t, hmem, -⟩ | ⟨-, hkept⟩
      · exact absurd hmem (hnone t)
      · exact hkept

/-- A record is told by what was given for each field. -/
theorem record_eq_ok_iff_given (hkeys : keys.Nodup) :
    t.record (keys.map x.member) start = .ok r ↔
      ∃ given, x.Gives keys t given ∧ ∀ k,
        Given given k (fun t => x.decode k t = .ok (x.get k r)) (x.get k r = x.get k start) := by
  rw [record_eq_ok_iff hkeys]
  refine exists_congr fun given => and_congr_right fun hgives => ?_
  exact reads_iff_given (hgives.nodup hkeys)

/-! ### Records of one field -/

/-- A record of one field, of which nothing but the field is kept. -/
def only {α : Type} (name : String) (decode : Tree → Decoded α) : Layout α Unit fun _ => α where
  name _ := name
  decode _ := decode
  get _ a := a
  put _ a _ := a
  name_injective _ := rfl
  get_put _ _ _ := rfl
  get_put_of_ne _ _ hne := absurd rfl hne
  ext h := h ()

variable {α : Type} {name : String} {decode : Tree → Decoded α}

theorem member_only : (only name decode).member () = ⟨name, fun t _ => decode t⟩ := by
  have hset : ((only name decode).member ()).set = fun t _ => decode t := by
    funext t r
    exact bind_pure _
  exact congrArg (Member.mk name) hset

theorem record_only_eq_ok_iff {start a : α} :
    t.record [⟨name, fun t _ => decode t⟩] start = .ok a ↔
      ∃ given, (only name decode).Gives [()] t given ∧
        Given given () (fun t => decode t = .ok a) (a = start) := by
  have hkeys : [()].Nodup := List.nodup_singleton ()
  rw [← member_only]
  refine (record_eq_ok_iff_given hkeys).trans ?_
  refine exists_congr fun given => and_congr_right fun _ => ?_
  exact ⟨fun h => h (), fun h _ => h⟩

end Layout

/-! ### Lists and null -/

theorem bind_eq_ok_iff {α β : Type} {x : Decoded α} {f : α → Decoded β} {b : β} :
    x >>= f = .ok b ↔ ∃ a, x = .ok a ∧ f a = .ok b := by
  cases x with
  | error why => exact iff_of_false (fun h => by cases h) (by simp)
  | ok a =>
    constructor
    · intro h
      exact ⟨a, rfl, h⟩
    · rintro ⟨a', ha', h⟩
      obtain rfl := Except.ok.inj ha'
      exact h

theorem pure_eq_ok_iff {α : Type} {a b : α} : (pure a : Decoded α) = .ok b ↔ b = a := by
  constructor
  · intro h
    exact (Except.ok.inj h).symm
  · rintro rfl
    rfl

theorem mapM_eq_ok_iff {α : Type} {decode : Tree → Decoded α} {items : List Tree}
    {values : List α} : items.mapM decode = .ok values ↔
      List.Forall₂ (fun t v => decode t = .ok v) items values := by
  induction items generalizing values with
  | nil => rw [List.mapM_nil, pure_eq_ok_iff, List.forall₂_nil_left_iff]
  | cons t items ih =>
    rw [List.mapM_cons, bind_eq_ok_iff, List.forall₂_cons_left_iff]
    refine exists_congr fun v => ?_
    rw [bind_eq_ok_iff]
    constructor
    · rintro ⟨hv, values', hvalues, hpure⟩
      exact ⟨values', hv, ih.mp hvalues, pure_eq_ok_iff.mp hpure⟩
    · rintro ⟨values', hv, hvalues, rfl⟩
      exact ⟨hv, values', ih.mpr hvalues, rfl⟩

/-- A tree is a value of a kind; or it is null, and there is none. -/
def MayBe {α : Type} (kind : Tree → α → Prop) (t : Tree) : Option α → Prop
  | none => t = .null
  | some a => kind t a

namespace Tree

variable {α : Type} {decode : Tree → Decoded α} {t : Tree}

/-- An array that is closed is a list, if all its items are values. -/
theorem list_eq_ok_iff {values : List α} :
    t.list decode = .ok values ↔ ∃ items, t = .array items true ∧
      List.Forall₂ (fun t v => decode t = .ok v) items values := by
  cases t with
  | array items closed =>
    show items.mapM decode >>= _ = _ ↔ _
    rw [bind_eq_ok_iff]
    cases closed with
    | false =>
      refine iff_of_false ?_ (by simp)
      rintro ⟨values', -, h⟩
      cases h
    | true =>
      constructor
      · rintro ⟨values', hvalues, hpure⟩
        obtain rfl := pure_eq_ok_iff.mp hpure
        exact ⟨items, rfl, mapM_eq_ok_iff.mp hvalues⟩
      · rintro ⟨items', hitems, hvalues⟩
        obtain ⟨rfl, -⟩ := Tree.array.inj hitems
        exact ⟨values, mapM_eq_ok_iff.mpr hvalues, rfl⟩
  | _ => exact iff_of_false (fun h => by cases h) (by simp)

/-- Null stands for a value that is not there, since it stands for no other. -/
theorem optional_eq_ok_iff (hnull : ∀ a, decode .null ≠ .ok a) {value : Option α} :
    t.optional decode = .ok value ↔ MayBe (fun t a => decode t = .ok a) t value := by
  by_cases ht : t = .null
  · subst ht
    show Except.ok none = _ ↔ _
    cases value with
    | none => exact iff_of_true rfl rfl
    | some a => exact iff_of_false (fun h => by cases h) (hnull a)
  · have hother : t.optional decode = (decode t).map some := by
      cases t with
      | null => exact absurd rfl ht
      | _ => rfl
    rw [hother]
    cases value with
    | none =>
      refine iff_of_false ?_ ht
      cases decode t <;> exact fun h => by cases h
    | some a =>
      show _ ↔ decode t = .ok a
      cases decode t with
      | error why => exact iff_of_false (fun h => by cases h) (fun h => by cases h)
      | ok a' => simp [Except.map]

end Tree

/-! ### Natural numbers -/

/-- The number that digits spell behind others that spell `n`. -/
def spelledFrom (n : Nat) (ds : List Nat) : Nat := ds.foldl (fun n d => n * 10 + d) n

theorem le_spelledFrom (n : Nat) (ds : List Nat) : n ≤ spelledFrom n ds := by
  induction ds generalizing n with
  | nil => exact Nat.le_refl n
  | cons d ds ih =>
    have := ih (n * 10 + d)
    show n ≤ spelledFrom (n * 10 + d) ds
    omega

namespace Numeral

/-- All digits are gathered exactly if the number that they spell fits. -/
theorem gather_eq_iff {n : Nat} {ds : List Nat} (hn : n ≤ mostSignificand) {m : Nat} :
    gather n ds = (m, []) ↔ m = spelledFrom n ds ∧ spelledFrom n ds ≤ mostSignificand := by
  induction ds generalizing n with
  | nil =>
    rw [gather, Prod.mk.injEq]
    constructor
    · rintro ⟨rfl, -⟩
      exact ⟨rfl, hn⟩
    · rintro ⟨rfl, -⟩
      exact ⟨rfl, rfl⟩
  | cons d ds ih =>
    rw [gather]
    split
    next hfits => exact ih hfits
    next hlarge =>
      refine iff_of_false (by simp) ?_
      rintro ⟨-, hfits⟩
      exact hlarge (Nat.le_trans (le_spelledFrom _ ds) hfits)

/-- A literal is a natural number of 64 bits: it has digits only, and they spell it. -/
structure IsNatural (x : Numeral) (n : Nat) : Prop where
  unsigned : x.negative = false
  pointless : x.fraction = []
  plain : x.hasExponent = false
  spelled : spelled x.whole = n
  fits : n < twoTo 64

theorem quantity?_eq_whole_iff {x : Numeral} {n : Nat} :
    x.quantity? = some (.whole n) ↔ x.IsNatural n := by
  have hgather : ∀ m, gather 0 x.whole = (m, []) ↔
      m = spelled x.whole ∧ spelled x.whole ≤ mostSignificand :=
    fun m => gather_eq_iff (Nat.zero_le _)
  have hmost : mostSignificand + 1 = twoTo 64 := rfl
  constructor
  · intro h
    rw [quantity?] at h
    generalize hfront : gather 0 x.whole = gathered at h
    obtain ⟨front, more⟩ := gathered
    dsimp only at h
    split at h
    next hplain =>
      simp only [Bool.and_eq_true, List.isEmpty_iff, Bool.not_eq_true'] at hplain
      obtain ⟨⟨⟨rfl, hpointless⟩, hexponent⟩, hunsigned⟩ := hplain
      obtain ⟨hspelled, hfits⟩ := (hgather front).mp hfront
      have hn : (front : Int) = n := Quantity.whole.inj (Option.some.inj h)
      exact ⟨hunsigned, hpointless, hexponent, by omega, by omega⟩
    split at h
    next hsigned =>
      -- A minus sign is allowed in front of a positive number only.
      have hn : -(front : Int) = n := Quantity.whole.inj (Option.some.inj h)
      simp only [Bool.and_eq_true, decide_eq_true_eq] at hsigned
      omega
    next => simp at h
  · intro h
    have hwhole := (hgather n).mpr ⟨h.spelled.symm, by have := h.spelled; have := h.fits; omega⟩
    simp [quantity?, hwhole, h.unsigned, h.pointless, h.plain]

end Numeral

theorem Tree.natural_eq_ok_iff {t : Tree} {n : Nat} :
    t.natural = .ok n ↔ ∃ x : Numeral, t = .number x ∧ x.IsNatural n := by
  cases t with
  | number x =>
    have hcases : (Tree.number x).natural = .ok n ↔ x.quantity? = some (.whole n) := by
      rw [natural]
      cases x.quantity? with
      | none => exact iff_of_false (fun h => by cases h) (by simp)
      | some q =>
        cases q with
        | real negative m => exact iff_of_false (fun h => by cases h) (by simp)
        | whole k =>
          dsimp only
          split
          next hk =>
            rw [Except.ok.injEq, Option.some.injEq, Quantity.whole.injEq]
            omega
          next hk =>
            refine iff_of_false (fun h => by cases h) fun h => ?_
            have := Quantity.whole.inj (Option.some.inj h)
            omega
    rw [hcases, Numeral.quantity?_eq_whole_iff]
    constructor
    · intro h
      exact ⟨x, rfl, h⟩
    · rintro ⟨x', hx', h⟩
      obtain rfl := Tree.number.inj hx'
      exact h
  | _ => exact iff_of_false (fun h => by cases h) (by simp)

end Tutor.Json
