import Mathlib.Data.List.Basic
import Tutor.Json.Decode

/-!
# Reading records

A record is read one field at a time, in the order of the text, so what is read is told by folding
over the text. But a field is set apart from all others and comes at most once. So the record that
is read can be told field by field: a field that was given is what its value decodes to, and any
other is as it was.

* `Layout` – the fields of records, each set apart from the others.
* `Reads`, `sets_eq_ok_iff` – what setting some fields makes of a record.
* `Gives`, `record_eq_ok_iff`, `exists_record_iff` – which fields a tree gives, what is read of it,
  and whether anything is.
-/

namespace Tutor.Json

/-! ### Values -/

namespace Tree

variable {t : Tree}

theorem string_eq_ok_iff {s : String} : t.string = .ok s ↔ t = .text (some s) := by
  constructor
  · intro h
    cases t with
    | text s' =>
      cases s' with
      | none => cases h
      | some s' =>
        obtain rfl := Except.ok.inj h
        rfl
    | _ => cases h
  · rintro rfl
    rfl

theorem truth_eq_ok_iff {b : Bool} : t.truth = .ok b ↔ t = .bool b := by
  constructor
  · intro h
    cases t with
    | bool b' =>
      obtain rfl := Except.ok.inj h
      rfl
    | _ => cases h
  · rintro rfl
    rfl

theorem exists_single_iff :
    (∃ v, t.single = .ok v) ↔ ∃ n q, t = .number n ∧ n.quantity? = some q := by
  constructor
  · rintro ⟨v, h⟩
    cases t with
    | number n =>
      cases hq : n.quantity? with
      | none =>
        simp only [single, hq] at h
        cases h
      | some q => exact ⟨n, q, rfl, hq⟩
    | _ => cases h
  · rintro ⟨n, q, rfl, hq⟩
    simp only [single, hq]
    cases q with
    | whole k => exact ⟨_, rfl⟩
    | real negative m => exact ⟨_, rfl⟩

theorem exists_optional_iff {α : Type} {decode : Tree → Decoded α} :
    (∃ v, t.optional decode = .ok v) ↔ t = .null ∨ ∃ v, decode t = .ok v := by
  have hother : t ≠ .null → t.optional decode = (decode t).map some := by
    intro hne
    cases t with
    | null => exact absurd rfl hne
    | _ => rfl
  constructor
  · rintro ⟨v, h⟩
    by_cases hnull : t = .null
    · exact .inl hnull
    · rw [hother hnull] at h
      cases hdecode : decode t with
      | ok v' => exact .inr ⟨v', rfl⟩
      | error why =>
        rw [hdecode] at h
        cases h
  · rintro (rfl | ⟨v, hv⟩)
    · exact ⟨none, rfl⟩
    · by_cases hnull : t = .null
      · subst hnull
        exact ⟨none, rfl⟩
      · exact ⟨some v, by rw [hother hnull, hv]; rfl⟩

end Tree

/-! ### Fields -/

/-- The fields of records: what they are called, how their values are decoded, and how they are
read and set. -/
structure Layout (ρ κ : Type) (V : κ → Type) where
  /-- The name of a field. -/
  name : κ → String
  /-- Decodes the value of a field. -/
  decode : (k : κ) → Tree → Decoded (V k)
  /-- A field of a record. -/
  get : (k : κ) → ρ → V k
  /-- The record with a field set. -/
  put : (k : κ) → V k → ρ → ρ
  name_injective : ∀ {k k'}, name k = name k' → k = k'
  get_put : ∀ k v r, get k (put k v r) = v
  get_put_of_ne : ∀ {k k'} v r, k' ≠ k → get k' (put k v r) = get k' r
  ext : ∀ {r r'}, (∀ k, get k r = get k r') → r = r'

namespace Layout

variable {ρ κ : Type} {V : κ → Type} (x : Layout ρ κ V)

/-- A field as a member of a record under construction. -/
def member (k : κ) : Member ρ := ⟨x.name k, fun t r => do return x.put k (← x.decode k t) r⟩

/-! ### Setting fields -/

/-- Sets fields one after another. -/
def sets : List (κ × Tree) → ρ → Decoded ρ
  | [], r => .ok r
  | (k, t) :: given, r => do sets given (← (x.member k).set t r)

/-- What becomes of a record when fields are given: those given are what their values decode to,
and all others are as they were. -/
structure Reads (given : List (κ × Tree)) (start r : ρ) : Prop where
  decoded : ∀ k t, (k, t) ∈ given → x.decode k t = .ok (x.get k r)
  kept : ∀ k, (∀ t, (k, t) ∉ given) → x.get k r = x.get k start

variable {x} {given : List (κ × Tree)} {start r : ρ} {k : κ} {t : Tree}

theorem set_member (k : κ) (t : Tree) (r : ρ) :
    (x.member k).set t r = (x.decode k t).map fun v => x.put k v r := by
  show (x.decode k t >>= fun v => pure (x.put k v r)) = _
  cases x.decode k t with
  | ok v => rfl
  | error why => rfl

theorem sets_cons_iff : x.sets ((k, t) :: given) start = .ok r ↔
    ∃ r', (x.member k).set t start = .ok r' ∧ x.sets given r' = .ok r := by
  rw [sets]
  cases (x.member k).set t start with
  | error why =>
    refine iff_of_false (fun h => by cases h) ?_
    rintro ⟨r', hr', -⟩
    cases hr'
  | ok r' =>
    constructor
    · intro h
      exact ⟨r', rfl, h⟩
    · rintro ⟨r'', hr'', h⟩
      obtain rfl := Except.ok.inj hr''
      exact h

/-- A field in front is set first, and no other touches it. -/
theorem reads_cons_iff (hk : ∀ t, (k, t) ∉ given) :
    x.Reads ((k, t) :: given) start r ↔
      ∃ v, x.decode k t = .ok v ∧ x.Reads given (x.put k v start) r := by
  constructor
  · intro h
    refine ⟨x.get k r, h.decoded k t List.mem_cons_self, ?_, ?_⟩
    · intro k' t' hmem
      exact h.decoded k' t' (List.mem_cons_of_mem _ hmem)
    · intro k' hk'
      by_cases heq : k' = k
      · subst heq
        rw [x.get_put]
      · rw [x.get_put_of_ne _ _ heq]
        refine h.kept k' fun t' hmem => ?_
        rcases List.mem_cons.mp hmem with hhead | hmem
        · exact heq (congrArg Prod.fst hhead)
        · exact hk' t' hmem
  · rintro ⟨v, hv, h⟩
    have hget : x.get k r = v := by rw [h.kept k hk, x.get_put]
    refine ⟨?_, ?_⟩
    · intro k' t' hmem
      rcases List.mem_cons.mp hmem with hhead | hmem
      · obtain ⟨rfl, rfl⟩ := Prod.mk.inj hhead
        rw [hget, hv]
      · exact h.decoded k' t' hmem
    · intro k' hk'
      have hne : k' ≠ k := by
        rintro rfl
        exact hk' t List.mem_cons_self
      rw [h.kept k' fun t' hmem => hk' t' (List.mem_cons_of_mem _ hmem), x.get_put_of_ne _ _ hne]

/-- Setting fields of which none comes twice. By induction on the fields, each of which is set in a
record that those behind it start from. -/
theorem sets_eq_ok_iff (hgiven : (given.map Prod.fst).Nodup) :
    x.sets given start = .ok r ↔ x.Reads given start r := by
  induction given generalizing start with
  | nil =>
    constructor
    · intro h
      obtain rfl := Except.ok.inj h
      exact ⟨fun k t hmem => (by cases hmem), fun k _ => rfl⟩
    · intro h
      rw [sets, x.ext fun k => h.kept k fun t => List.not_mem_nil]
  | cons y given ih =>
    obtain ⟨k, t⟩ := y
    obtain ⟨hk, hrest⟩ := List.nodup_cons.mp hgiven
    have hfresh : ∀ t', (k, t') ∉ given := fun t' hmem => hk (List.mem_map.mpr ⟨_, hmem, rfl⟩)
    rw [reads_cons_iff hfresh, sets_cons_iff, set_member]
    constructor
    · rintro ⟨r', hset, hsets⟩
      cases hdecode : x.decode k t with
      | error why =>
        rw [hdecode] at hset
        cases hset
      | ok v =>
        rw [hdecode] at hset
        obtain rfl := Except.ok.inj hset
        exact ⟨v, rfl, (ih hrest).mp hsets⟩
    · rintro ⟨v, hdecode, hreads⟩
      rw [hdecode]
      exact ⟨_, rfl, (ih hrest).mpr hreads⟩

/-! ### What a tree gives -/

variable (x) (keys : List κ)

/-- The fields among the members of an object. All keys spell texts; what is called otherwise is
whole, and passed over. -/
inductive Picks : List (Option String × Tree) → List (κ × Tree) → Prop
  | nil : Picks [] []
  | passed {key : String} {t : Tree} {members : List (Option String × Tree)}
      {given : List (κ × Tree)} : (∀ k ∈ keys, x.name k ≠ key) → t.isWhole = true →
      Picks members given → Picks ((some key, t) :: members) given
  | picked {k : κ} {t : Tree} {members : List (Option String × Tree)} {given : List (κ × Tree)} :
      k ∈ keys → Picks members given → Picks ((some (x.name k), t) :: members) ((k, t) :: given)

/-- The fields that a tree gives: an array gives them in order, as many as it has items, and an
object gives those of its members that are called so, none of them twice. -/
inductive Gives : Tree → List (κ × Tree) → Prop
  | array {items : List Tree} : items.length ≤ keys.length →
      Gives (.array items true) (keys.zip items)
  | object {members : List (Option String × Tree)} {given : List (κ × Tree)} :
      x.Picks keys members given → (given.map Prod.fst).Nodup →
      Gives (.object members true) given

variable {x keys} {closed : Bool}

theorem fromItems_eq_ok_iff {items : List Tree} :
    fromItems (keys.map x.member) items closed start = .ok r ↔
      closed = true ∧ items.length ≤ keys.length ∧ x.sets (keys.zip items) start = .ok r := by
  induction items generalizing keys start with
  | nil =>
    rw [fromItems, List.zip_nil_right]
    cases closed with
    | false => exact iff_of_false (fun h => by cases h) fun h => by cases h.1
    | true =>
      constructor
      · intro h
        exact ⟨rfl, Nat.zero_le _, h⟩
      · intro h
        exact h.2.2
  | cons t items ih =>
    cases keys with
    | nil => exact iff_of_false (fun h => by cases h) fun h => absurd h.2.1 (by simp)
    | cons k keys =>
      rw [List.map_cons, fromItems, List.zip_cons_cons, sets_cons_iff, List.length_cons,
        List.length_cons, Nat.succ_le_succ_iff]
      cases (x.member k).set t start with
      | error why =>
        refine iff_of_false (fun h => by cases h) ?_
        rintro ⟨-, -, r', hr', -⟩
        cases hr'
      | ok r' =>
        show fromItems (keys.map x.member) items closed r' = .ok r ↔ _
        rw [ih]
        simp

theorem find?_eq_none {key : String} (h : ∀ k ∈ keys, x.name k ≠ key) :
    (keys.map x.member).find? (·.name == key) = none := by
  apply List.find?_eq_none.mpr
  intro m hm
  obtain ⟨k, hk, rfl⟩ := List.mem_map.mp hm
  simpa [member] using h k hk

/-- No two fields are called the same, so the first that is called so is the one. -/
theorem find?_eq_some (hk : k ∈ keys) :
    (keys.map x.member).find? (·.name == x.name k) = some (x.member k) := by
  rw [List.find?_map]
  have hfirst : keys.find? ((fun m => m.name == x.name k) ∘ x.member) = some k := by
    induction keys with
    | nil => cases hk
    | cons first keys ih =>
      rw [List.find?_cons]
      by_cases heq : first = k
      · subst heq
        simp [member]
      · have hne : (x.member first).name ≠ x.name k := fun hname => heq (x.name_injective hname)
        have hrest : k ∈ keys := by
          rcases List.mem_cons.mp hk with rfl | hk
          · exact absurd rfl heq
          · exact hk
        rw [Function.comp_apply, beq_eq_false_iff_ne.mpr hne]
        exact ih hrest
  rw [hfirst]
  rfl

theorem picks_known_iff {members : List (Option String × Tree)} (hk : k ∈ keys) :
    x.Picks keys ((some (x.name k), t) :: members) given ↔
      ∃ more, given = (k, t) :: more ∧ x.Picks keys members more := by
  constructor
  · intro h
    generalize hname : x.name k = name at h
    cases h with
    | passed hunknown => exact absurd hname (hunknown k hk)
    | picked hk' hmore =>
      obtain rfl := x.name_injective hname
      exact ⟨_, rfl, hmore⟩
  · rintro ⟨more, rfl, hmore⟩
    exact .picked hk hmore

theorem picks_unknown_iff {members : List (Option String × Tree)} {key : String}
    (hunknown : ∀ k ∈ keys, x.name k ≠ key) :
    x.Picks keys ((some key, t) :: members) given ↔
      t.isWhole = true ∧ x.Picks keys members given := by
  constructor
  · intro h
    cases h with
    | passed _ hwhole hmore => exact ⟨hwhole, hmore⟩
    | picked hk => exact absurd rfl (hunknown _ hk)
  · rintro ⟨hwhole, hmore⟩
    exact .passed hunknown hwhole hmore

/-- A member that is a field is set, unless it was seen before. -/
theorem fromMembers_known_iff {members : List (Option String × Tree)} {seen : List String}
    (hk : k ∈ keys) :
    fromMembers (keys.map x.member) closed seen ((some (x.name k), t) :: members) start = .ok r ↔
      x.name k ∉ seen ∧ ∃ r', (x.member k).set t start = .ok r' ∧
        fromMembers (keys.map x.member) closed (x.name k :: seen) members r' = .ok r := by
  rw [fromMembers, find?_eq_some hk]
  dsimp only
  by_cases hseen : x.name k ∈ seen
  · have hcontains : seen.contains (x.name k) = true := by simpa using hseen
    rw [hcontains]
    exact iff_of_false (fun h => by cases h) fun h => h.1 hseen
  · have hcontains : seen.contains (x.name k) = false := by simpa using hseen
    rw [hcontains]
    cases hset : (x.member k).set t start with
    | error why =>
      refine iff_of_false (fun h => by cases h) ?_
      rintro ⟨-, r', hr', -⟩
      cases hr'
    | ok r' =>
      constructor
      · intro h
        exact ⟨hseen, r', rfl, h⟩
      · rintro ⟨-, r'', hr'', h⟩
        obtain rfl := Except.ok.inj hr''
        exact h

/-- Any other member is passed over, if it is whole. -/
theorem fromMembers_unknown_iff {members : List (Option String × Tree)} {seen : List String}
    {key : String} (hunknown : ∀ k ∈ keys, x.name k ≠ key) :
    fromMembers (keys.map x.member) closed seen ((some key, t) :: members) start = .ok r ↔
      t.isWhole = true ∧ fromMembers (keys.map x.member) closed seen members start = .ok r := by
  rw [fromMembers, find?_eq_none hunknown]
  dsimp only
  rw [Tree.ignored]
  cases t.isWhole with
  | false => exact iff_of_false (fun h => by cases h) fun h => by cases h.1
  | true =>
    constructor
    · intro h
      exact ⟨rfl, h⟩
    · intro h
      exact h.2

/-- A field in front is new exactly if those behind it are new once it was seen. -/
theorem new_cons_iff {seen : List String} :
    (((k, t) :: given).map Prod.fst).Nodup ∧ (∀ y ∈ (k, t) :: given, x.name y.1 ∉ seen) ↔
      x.name k ∉ seen ∧ (given.map Prod.fst).Nodup ∧
        ∀ y ∈ given, x.name y.1 ∉ x.name k :: seen := by
  rw [List.map_cons, List.nodup_cons, List.forall_mem_cons]
  constructor
  · rintro ⟨⟨hk, hnodup⟩, hseen, hnew⟩
    refine ⟨hseen, hnodup, fun y hy hmem => ?_⟩
    rcases List.mem_cons.mp hmem with hname | hmem
    · exact hk (List.mem_map.mpr ⟨y, hy, x.name_injective hname⟩)
    · exact hnew y hy hmem
  · rintro ⟨hseen, hnodup, hnew⟩
    refine ⟨⟨fun hmem => ?_, hnodup⟩, hseen, fun y hy hmem => ?_⟩
    · obtain ⟨y, hy, hfirst⟩ := List.mem_map.mp hmem
      refine hnew y hy ?_
      rw [hfirst]
      exact List.mem_cons_self
    · exact hnew y hy (List.mem_cons_of_mem _ hmem)

/-- A key that spells no text ends the reading, whatever follows, if what stands in front of it can
be read. -/
theorem fromMembers_nameless {fields : List (Member ρ)} {front more : List (Option String × Tree)}
    {seen : List String} (h : fromMembers fields true seen front start = .ok r) :
    fromMembers fields closed seen (front ++ (none, t) :: more) start = .error .malformed := by
  induction front generalizing seen start with
  | nil => rw [List.nil_append, fromMembers]
  | cons m front ih =>
    obtain ⟨key?, t'⟩ := m
    cases key? with
    | none =>
      rw [fromMembers] at h
      cases h
    | some key =>
      rw [List.cons_append, fromMembers]
      rw [fromMembers] at h
      cases hfind : fields.find? (·.name == key) with
      | none =>
        simp only [hfind] at h ⊢
        cases hignored : t'.ignored with
        | error why =>
          rw [hignored] at h
          cases h
        | ok u =>
          rw [hignored] at h
          exact ih h
      | some field =>
        simp only [hfind] at h ⊢
        by_cases hseen : seen.contains key = true
        · rw [if_pos hseen] at h
          cases h
        · rw [if_neg hseen] at h ⊢
          cases hset : field.set t' start with
          | error why =>
            rw [hset] at h
            cases h
          | ok r' =>
            rw [hset] at h
            exact ih h

/-- The members of an object are read as the fields among them are set. By induction on the
members; the names seen so far are those of the fields before. -/
theorem fromMembers_eq_ok_iff {members : List (Option String × Tree)} {seen : List String} :
    fromMembers (keys.map x.member) closed seen members start = .ok r ↔
      closed = true ∧ ∃ given, x.Picks keys members given ∧
        ((given.map Prod.fst).Nodup ∧ ∀ y ∈ given, x.name y.1 ∉ seen) ∧
        x.sets given start = .ok r := by
  induction members generalizing seen start with
  | nil =>
    rw [fromMembers]
    cases closed with
    | false => exact iff_of_false (fun h => by cases h) fun h => by cases h.1
    | true =>
      constructor
      · intro h
        exact ⟨rfl, [], .nil, ⟨.nil, by simp⟩, h⟩
      · rintro ⟨-, given, hpicks, -, h⟩
        cases hpicks
        exact h
  | cons m members ih =>
    obtain ⟨key?, t⟩ := m
    cases key? with
    | none =>
      refine iff_of_false (fun h => ?_) ?_
      · rw [fromMembers] at h
        cases h
      · rintro ⟨-, given, hpicks, -⟩
        cases hpicks
    | some key =>
      by_cases hknown : ∃ k ∈ keys, x.name k = key
      · obtain ⟨k, hk, rfl⟩ := hknown
        rw [fromMembers_known_iff hk]
        constructor
        · rintro ⟨hseen, r', hset, h⟩
          obtain ⟨hclosed, more, hpicks, hnew, hsets⟩ := ih.mp h
          exact ⟨hclosed, (k, t) :: more, .picked hk hpicks, new_cons_iff.mpr ⟨hseen, hnew⟩,
            sets_cons_iff.mpr ⟨r', hset, hsets⟩⟩
        · rintro ⟨hclosed, given, hpicks, hnew, hsets⟩
          obtain ⟨more, rfl, hmore⟩ := (picks_known_iff hk).mp hpicks
          obtain ⟨hseen, hnew⟩ := new_cons_iff.mp hnew
          obtain ⟨r', hset, hsets⟩ := sets_cons_iff.mp hsets
          exact ⟨hseen, r', hset, ih.mpr ⟨hclosed, more, hmore, hnew, hsets⟩⟩
      · have hunknown : ∀ k ∈ keys, x.name k ≠ key := fun k hk hname => hknown ⟨k, hk, hname⟩
        simp only [fromMembers_unknown_iff hunknown, picks_unknown_iff hunknown, ih]
        constructor
        · rintro ⟨hwhole, hclosed, given, hpicks, hnew⟩
          exact ⟨hclosed, given, ⟨hwhole, hpicks⟩, hnew⟩
        · rintro ⟨hclosed, given, ⟨hwhole, hpicks⟩, hnew⟩
          exact ⟨hwhole, hclosed, given, hpicks, hnew⟩

theorem nodup_fst_zip (hkeys : keys.Nodup) (items : List Tree) :
    ((keys.zip items).map Prod.fst).Nodup := by
  have hsublist : ((keys.zip items).map Prod.fst).Sublist keys := by
    induction keys generalizing items with
    | nil => exact List.Sublist.refl _
    | cons k keys ih =>
      cases items with
      | nil => exact List.nil_sublist _
      | cons t items => exact (ih (List.nodup_cons.mp hkeys).2 items).cons_cons k
  exact hkeys.sublist hsublist

theorem Gives.nodup (h : x.Gives keys t given) (hkeys : keys.Nodup) :
    (given.map Prod.fst).Nodup := by
  cases h with
  | array hlength => exact nodup_fst_zip hkeys _
  | object hpicks hnodup => exact hnodup

/-- What is read of a tree is told by the fields that it gives. -/
theorem record_eq_ok_iff (hkeys : keys.Nodup) :
    t.record (keys.map x.member) start = .ok r ↔
      ∃ given, x.Gives keys t given ∧ x.Reads given start r := by
  cases t with
  | array items closed =>
    have hnodup := nodup_fst_zip hkeys items
    rw [Tree.record, fromItems_eq_ok_iff]
    constructor
    · rintro ⟨rfl, hlength, hsets⟩
      exact ⟨_, .array hlength, (sets_eq_ok_iff hnodup).mp hsets⟩
    · rintro ⟨given, hgives, hreads⟩
      cases hgives with
      | array hlength => exact ⟨rfl, hlength, (sets_eq_ok_iff hnodup).mpr hreads⟩
  | object members closed =>
    rw [Tree.record, fromMembers_eq_ok_iff]
    constructor
    · rintro ⟨rfl, given, hpicks, ⟨hnodup, -⟩, hsets⟩
      exact ⟨given, .object hpicks hnodup, (sets_eq_ok_iff hnodup).mp hsets⟩
    · rintro ⟨given, hgives, hreads⟩
      cases hgives with
      | object hpicks hnodup =>
        exact ⟨rfl, given, hpicks, ⟨hnodup, by simp⟩, (sets_eq_ok_iff hnodup).mpr hreads⟩
  | _ => exact iff_of_false (fun h => by cases h) fun ⟨given, hgives, _⟩ => by cases hgives

theorem exists_sets (h : ∀ k t, (k, t) ∈ given → ∃ v, x.decode k t = .ok v) (start : ρ) :
    ∃ r, x.sets given start = .ok r := by
  induction given generalizing start with
  | nil => exact ⟨start, rfl⟩
  | cons y given ih =>
    obtain ⟨k, t⟩ := y
    obtain ⟨v, hv⟩ := h k t List.mem_cons_self
    obtain ⟨r, hr⟩ := ih (fun k' t' hmem => h k' t' (List.mem_cons_of_mem _ hmem)) (x.put k v start)
    refine ⟨r, sets_cons_iff.mpr ⟨_, ?_, hr⟩⟩
    rw [set_member, hv]
    rfl

/-- Something is read of a tree exactly if all that it gives can be decoded. -/
theorem exists_record_iff (hkeys : keys.Nodup) :
    (∃ r, t.record (keys.map x.member) start = .ok r) ↔
      ∃ given, x.Gives keys t given ∧ ∀ k t, (k, t) ∈ given → ∃ v, x.decode k t = .ok v := by
  constructor
  · rintro ⟨r, hr⟩
    obtain ⟨given, hgives, hreads⟩ := (record_eq_ok_iff hkeys).mp hr
    exact ⟨given, hgives, fun k t hmem => ⟨_, hreads.decoded k t hmem⟩⟩
  · rintro ⟨given, hgives, hdecode⟩
    obtain ⟨r, hr⟩ := exists_sets hdecode start
    exact ⟨r, (record_eq_ok_iff hkeys).mpr
      ⟨given, hgives, (sets_eq_ok_iff (hgives.nodup hkeys)).mp hr⟩⟩

end Layout

end Tutor.Json
