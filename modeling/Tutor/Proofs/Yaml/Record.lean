import Mathlib.Data.List.Basic
import Tutor.Yaml.Decode

/-!
# What a document tells of a record

A record is read one pair at a time, in the order of the document, and records are nested. What is
read of it can be told part by part all the same: a part is what stands at the end of a path of
keys, or the default if the path leads nowhere.

* `Node.member?`, `Node.at?` – the value of a key, and what stands at the end of a path of keys.
* `IsField` – a field that sets a part of a record which no other field touches.
* `Tells` – a way of reading records that tells of a part by what stands at the end of a path.
* `IsField.tells` – mappings tell of their fields, and of what their fields tell of.
-/

namespace Tutor.Yaml

/-! ### Paths -/

namespace Node

/-- The value of a key in a mapping. -/
def member? (known : Anchors) (name : String) (n : Node) : Option Node :=
  match n.target known with
  | .mapping pairs => (pairs.find? fun p => p.1.text? known == some name).map (·.2)
  | _ => none

/-- What stands at the end of a path of keys. -/
def at? (known : Anchors) : List String → Node → Option Node
  | [], n => some n
  | name :: path, n => (n.member? known name).bind (at? known path)

theorem at?_singleton (known : Anchors) (name : String) (n : Node) :
    n.at? known [name] = n.member? known name := Option.bind_fun_some _

end Node

/-! ### Fields -/

section

variable {ρ α : Type} {fields : List (Member ρ)} {name : String}
  {read : Anchors → Node → Option α} {part : ρ → α}

/-- A name among those of some fields is that of the part of a record: what is called so sets the
part to what is read, and nothing else touches it. -/
structure IsField (fields : List (Member ρ)) (name : String) (read : Anchors → Node → Option α)
    (part : ρ → α) : Prop where
  named : ∃ f ∈ fields, f.name = name
  sets : ∀ f ∈ fields, f.name = name → ∀ known n r, (f.set known n r).map part = read known n
  keeps : ∀ f ∈ fields, f.name ≠ name →
    ∀ known n r r', f.set known n r = some r' → part r' = part r

/-- A pair in front is passed over, or it is a field that was not seen before and is set. -/
theorem fieldsFrom_cons {known : Anchors} {seen : List String} {k v : Node}
    {pairs : List (Node × Node)} {start r : ρ}
    (h : fieldsFrom known fields seen ((k, v) :: pairs) start = some r) :
    ∃ key, k.text? known = some key ∧
      ((∀ f ∈ fields, f.name ≠ key) ∧ fieldsFrom known fields seen pairs start = some r ∨
        ∃ f ∈ fields, f.name = key ∧ key ∉ seen ∧ ∃ r', f.set known v start = some r' ∧
          fieldsFrom known fields (key :: seen) pairs r' = some r) := by
  rw [fieldsFrom] at h
  obtain ⟨key, hkey, h⟩ := Option.bind_eq_some_iff.mp h
  refine ⟨key, hkey, ?_⟩
  cases hfind : fields.find? (·.name == key) with
  | none =>
    rw [hfind] at h
    refine .inl ⟨fun f hf => ?_, h⟩
    simpa using List.find?_eq_none.mp hfind f hf
  | some f =>
    rw [hfind] at h
    dsimp only at h
    split at h
    next => cases h
    next hseen =>
      obtain ⟨r', hset, h⟩ := Option.bind_eq_some_iff.mp h
      have hname : f.name = key := by simpa using List.find?_some hfind
      exact .inr ⟨f, List.mem_of_find?_eq_some hfind, hname, by simpa using hseen, r', hset, h⟩

namespace IsField

variable (hf : IsField fields name read part)
include hf

/-- A field that was seen does not come again, so its part stays as it is. -/
theorem part_eq_of_seen {known : Anchors} {seen : List String} {pairs : List (Node × Node)}
    {start r : ρ} (hseen : name ∈ seen)
    (h : fieldsFrom known fields seen pairs start = some r) : part r = part start := by
  induction pairs generalizing seen start with
  | nil =>
    obtain rfl := Option.some.inj h
    rfl
  | cons p pairs ih =>
    obtain ⟨key, -, ⟨-, h⟩ | ⟨f, hmem, hname, hnew, r', hset, h⟩⟩ := fieldsFrom_cons h
    · exact ih hseen h
    · have hne : f.name ≠ name := by
        rintro rfl
        exact hnew (hname ▸ hseen)
      rw [ih (List.mem_cons_of_mem _ hseen) h, hf.keeps f hmem hne known _ _ _ hset]

/-- By induction on the pairs: those in front of the field keep its part, the field sets it, and
those behind keep it again. -/
theorem read_of_fieldsFrom {known : Anchors} {seen : List String} {pairs : List (Node × Node)}
    {start r : ρ} (h : fieldsFrom known fields seen pairs start = some r) :
    (pairs.find? fun p => p.1.text? known == some name).elim (some (part start))
      (fun p => read known p.2) = some (part r) := by
  induction pairs generalizing seen start with
  | nil =>
    obtain rfl := Option.some.inj h
    rfl
  | cons p pairs ih =>
    obtain ⟨k, v⟩ := p
    obtain ⟨key, hkey, hcases⟩ := fieldsFrom_cons h
    have hpasses : key ≠ name →
        (((k, v) :: pairs).find? fun p => p.1.text? known == some name) =
          pairs.find? fun p => p.1.text? known == some name := by
      intro hne
      exact List.find?_cons_of_neg (by simpa [hkey] using hne)
    rcases hcases with ⟨hunknown, h⟩ | ⟨f, hmem, rfl, -, r', hset, h⟩
    · have hne : key ≠ name := by
        rintro rfl
        obtain ⟨f, hmem, hname⟩ := hf.named
        exact hunknown f hmem hname
      rw [hpasses hne]
      exact ih h
    · by_cases heq : f.name = name
      · have hread := hf.sets f hmem heq known v start
        rw [hset] at hread
        rw [List.find?_cons_of_pos (by simpa [hkey] using heq)]
        show read known v = _
        rw [← hread, hf.part_eq_of_seen (heq ▸ List.mem_cons_self) h]
        rfl
      · rw [hpasses heq, ← hf.keeps f hmem heq known v _ _ hset]
        exact ih h

theorem read_of_record {known : Anchors} {n : Node} {start r : ρ}
    (h : n.record fields known start = some r) :
    (n.member? known name).elim (some (part start)) (read known) = some (part r) := by
  rw [Node.record] at h
  rw [Node.member?]
  generalize n.target known = v at h ⊢
  cases v with
  | mapping pairs =>
    have hread := hf.read_of_fieldsFrom h
    dsimp only
    rw [Option.elim_map]
    exact hread
  | _ =>
    obtain ⟨-, h⟩ := Option.ite_none_right_eq_some.mp h
    obtain rfl := Option.some.inj h
    rfl

end IsField

end

/-! ### Paths into records -/

section

variable {ρ σ α : Type} {fields : List (Member ρ)} {name : String} {path : List String}
  {inner : Anchors → Node → Option σ} {part : ρ → σ}
  {read : Anchors → Node → Option α} {part' : σ → α}

/-- Whatever is read tells of a part of it: it is what is read at the end of a path, or the default
where the path leads nowhere. -/
def Tells (outer : Anchors → Node → Option σ) (default : σ) (path : List String)
    (read : Anchors → Node → Option α) (part : σ → α) : Prop :=
  ∀ known n r, outer known n = some r →
    (n.at? known path).elim (some (part default)) (read known) = some (part r)

theorem IsField.tells {start : ρ} (hf : IsField fields name inner part) :
    Tells (fun known n => n.record fields known start) start [name] inner part := by
  intro known n r hr
  rw [Node.at?_singleton]
  exact hf.read_of_record hr

/-- What a field tells of its part, the whole record tells of the part of that part. -/
theorem IsField.tells_within {start : ρ} {default : σ} (hf : IsField fields name inner part)
    (h : Tells inner default path read part') (hdefault : part start = default) :
    Tells (fun known n => n.record fields known start) start (name :: path) read
      fun r => part' (part r) := by
  subst hdefault
  intro known n r hr
  have hread := hf.read_of_record hr
  rw [Node.at?]
  cases hmember : n.member? known name with
  | none =>
    rw [hmember] at hread
    obtain hpart := Option.some.inj hread
    show some (part' (part start)) = some (part' (part r))
    rw [hpart]
  | some v =>
    rw [hmember] at hread
    exact h known v _ hread

end

end Tutor.Yaml
