import Mathlib.Tactic.Common
import Tutor.Text.Blank
import Tutor.Text.Letter

/-!
# Cutting and joining

* `splitWhere_append`, `exists_splitWhere_append`, `splitWhere_of_none`, `exists_mem_splitWhere`,
  `isInfix_of_mem_splitWhere`, `takeWhile_append_of_head?`, `cutAt?_append`, `cutAt?_of_none` –
  where a text falls apart.
* `mem_joinWith`, `joinWith_cons_cons`, `joinWith_append`, `joinWith_splitWhere`,
  `splitWhere_joinWith` – parts put together.
* `mem_of_mapM` – what all parts become, if each becomes something.
* `of_mem_digitsIn` – the digits of a number.
-/

namespace Tutor.Text

variable {p : Char → Bool} {c : Char} {as bs cs : List Char}

/-! ### Cuts -/

theorem splitWhere_ne_nil (p : Char → Bool) : ∀ cs : List Char, splitWhere p cs ≠ []
  | [] => List.cons_ne_nil _ _
  | c :: cs => by
    rw [splitWhere]
    split
    · exact List.cons_ne_nil _ _
    · split
      · exact List.cons_ne_nil _ _
      · exact List.cons_ne_nil _ _

/-- A text falls apart at a separator. -/
theorem splitWhere_append (hc : p c = true) (as bs : List Char) :
    splitWhere p (as ++ c :: bs) = splitWhere p as ++ splitWhere p bs := by
  induction as with
  | nil =>
    rw [List.nil_append, splitWhere, splitWhere, hc]
    rfl
  | cons a as ih =>
    rw [List.cons_append, splitWhere, splitWhere, ih]
    split
    · rfl
    · cases hsplit : splitWhere p as with
      | nil => exact absurd hsplit (splitWhere_ne_nil p as)
      | cons part parts => rfl

/-- Where no separator stands between two texts, the last part of the one and the first of the other
are one part. -/
theorem exists_splitWhere_append (p : Char → Bool) (as bs : List Char) :
    ∃ front last first back, splitWhere p as = front ++ [last] ∧ splitWhere p bs = first :: back ∧
      splitWhere p (as ++ bs) = front ++ (last ++ first) :: back := by
  induction as with
  | nil =>
    obtain ⟨first, back, hbs⟩ := List.exists_cons_of_ne_nil (splitWhere_ne_nil p bs)
    exact ⟨[], [], first, back, rfl, hbs, hbs⟩
  | cons a as ih =>
    obtain ⟨front, last, first, back, has, hbs, hall⟩ := ih
    rw [List.cons_append, splitWhere, splitWhere, has, hall]
    cases p a with
    | true => exact ⟨[] :: front, last, first, back, rfl, hbs, rfl⟩
    | false =>
      cases front with
      | nil => exact ⟨[], a :: last, first, back, rfl, hbs, rfl⟩
      | cons part front => exact ⟨(a :: part) :: front, last, first, back, rfl, hbs, rfl⟩

theorem splitWhere_of_none (h : ∀ c ∈ as, p c = false) : splitWhere p as = [as] := by
  induction as with
  | nil => rfl
  | cons a as ih =>
    rw [splitWhere, h a List.mem_cons_self, ih fun c hc => h c (List.mem_cons_of_mem _ hc)]
    rfl

/-- What is no separator stands in one of the parts. -/
theorem exists_mem_splitWhere (hc : p c = false) (h : c ∈ as) :
    ∃ part ∈ splitWhere p as, c ∈ part := by
  induction as with
  | nil => cases h
  | cons a as ih =>
    rw [splitWhere]
    rcases List.mem_cons.mp h with rfl | h
    · rw [hc, if_neg Bool.false_ne_true]
      split
      · exact ⟨_, List.mem_singleton_self _, List.mem_singleton_self _⟩
      · exact ⟨_, List.mem_cons_self, List.mem_cons_self⟩
    · obtain ⟨part, hpart, hmem⟩ := ih h
      split
      · exact ⟨part, List.mem_cons_of_mem _ hpart, hmem⟩
      · split
        next hsplit =>
          rw [hsplit] at hpart
          cases hpart
        next first parts hsplit =>
          rw [hsplit] at hpart
          rcases List.mem_cons.mp hpart with rfl | hpart
          · exact ⟨_, List.mem_cons_self, List.mem_cons_of_mem _ hmem⟩
          · exact ⟨part, List.mem_cons_of_mem _ hpart, hmem⟩

/-- No separator stands in a part. -/
theorem not_of_mem_splitWhere {part : List Char} (h : part ∈ splitWhere p cs) (hc : c ∈ part) :
    p c = false := by
  induction cs generalizing part with
  | nil =>
    obtain rfl := List.mem_singleton.mp h
    cases hc
  | cons d cs ih =>
    rw [splitWhere] at h
    split at h
    next =>
      rcases List.mem_cons.mp h with rfl | h
      · cases hc
      · exact ih h hc
    next hd =>
      rw [Bool.not_eq_true] at hd
      split at h
      next =>
        obtain rfl := List.mem_singleton.mp h
        obtain rfl := List.mem_singleton.mp hc
        exact hd
      next first parts hsplit =>
        rcases List.mem_cons.mp h with rfl | h
        · rcases List.mem_cons.mp hc with rfl | hc
          · exact hd
          · exact ih (hsplit ▸ List.mem_cons_self) hc
        · exact ih (hsplit ▸ List.mem_cons_of_mem _ h) hc

/-- A part between separators is a part of the text. -/
theorem isInfix_of_mem_splitWhere {part : List Char} (h : part ∈ splitWhere p cs) :
    part <:+: cs := by
  -- The first part is even a beginning, and this has to be carried along.
  suffices hparts : ∀ first more, splitWhere p cs = first :: more →
      first <+: cs ∧ ∀ part ∈ more, part <:+: cs by
    obtain ⟨first, more, hsplit⟩ := List.exists_cons_of_ne_nil (splitWhere_ne_nil p cs)
    obtain ⟨hfirst, hmore⟩ := hparts first more hsplit
    rw [hsplit] at h
    rcases List.mem_cons.mp h with rfl | h
    · exact hfirst.isInfix
    · exact hmore part h
  clear h
  induction cs with
  | nil =>
    rintro first more h
    obtain ⟨rfl, rfl⟩ := List.cons.inj h
    exact ⟨List.prefix_refl _, fun part hpart => absurd hpart List.not_mem_nil⟩
  | cons c cs ih =>
    intro first more h
    obtain ⟨front, back, hsplit⟩ := List.exists_cons_of_ne_nil (splitWhere_ne_nil p cs)
    obtain ⟨hfront, hback⟩ := ih front back hsplit
    rw [splitWhere, hsplit] at h
    split at h
    · obtain ⟨rfl, rfl⟩ := List.cons.inj h
      refine ⟨List.nil_prefix, fun part hpart => ?_⟩
      rcases List.mem_cons.mp hpart with rfl | hpart
      · exact hfront.isInfix.trans (List.suffix_cons c cs).isInfix
      · exact (hback part hpart).trans (List.suffix_cons c cs).isInfix
    · obtain ⟨rfl, rfl⟩ := List.cons.inj h
      refine ⟨List.prefix_cons_inj c |>.mpr hfront, fun part hpart => ?_⟩
      exact (hback part hpart).trans (List.suffix_cons c cs).isInfix

/-- A run goes on to where the first character stands that does not belong to it. -/
theorem takeWhile_append_of_head? (has : ∀ a ∈ as, p a = true)
    (hbs : ∀ b ∈ bs.head?, p b = false) : (as ++ bs).takeWhile p = as := by
  rw [List.takeWhile_append_of_pos has]
  cases bs with
  | nil => exact List.append_nil as
  | cons b bs =>
    rw [List.takeWhile_cons_of_neg (by rw [hbs b rfl]; exact Bool.false_ne_true), List.append_nil]

theorem dropWhile_append_of_head? (has : ∀ a ∈ as, p a = true)
    (hbs : ∀ b ∈ bs.head?, p b = false) : (as ++ bs).dropWhile p = bs := by
  rw [List.dropWhile_append_of_pos has]
  cases bs with
  | nil => rfl
  | cons b bs => exact List.dropWhile_cons_of_neg (by rw [hbs b rfl]; exact Bool.false_ne_true)

theorem after?_eq_some_iff {ps rest : List Char} : after? ps cs = some rest ↔ cs = ps ++ rest := by
  induction ps generalizing cs with
  | nil => simp [after?]
  | cons q ps ih =>
    cases cs with
    | nil => simp [after?]
    | cons c cs =>
      rw [after?, List.cons_append, List.cons.injEq]
      split
      next h => rw [ih, and_iff_right h.symm]
      next h => simp [Ne.symm h]

theorem cutAt?_append (hc : p c = true) (has : ∀ a ∈ as, p a = false) (bs : List Char) :
    cutAt? p (as ++ c :: bs) = some (as, bs) := by
  induction as with
  | nil => rw [List.nil_append, cutAt?, if_pos hc]
  | cons a as ih =>
    rw [List.cons_append, cutAt?, has a List.mem_cons_self,
      ih fun a ha => has a (List.mem_cons_of_mem _ ha)]
    rfl

theorem cutAt?_of_none (h : ∀ c ∈ cs, p c = false) : cutAt? p cs = none := by
  induction cs with
  | nil => rfl
  | cons c cs ih =>
    rw [cutAt?, h c List.mem_cons_self, ih fun d hd => h d (List.mem_cons_of_mem _ hd)]
    rfl

/-- A text that was cut is made of what stands before and after a separator. -/
theorem eq_of_cutAt? (h : cutAt? p cs = some (as, bs)) : ∃ c, p c = true ∧ cs = as ++ c :: bs := by
  induction cs generalizing as with
  | nil => cases h
  | cons c cs ih =>
    rw [cutAt?] at h
    split at h
    next hc =>
      obtain ⟨rfl, rfl⟩ := Prod.mk.inj (Option.some.inj h)
      exact ⟨c, hc, rfl⟩
    next =>
      obtain ⟨⟨before, after⟩, hcut, hcons⟩ := Option.map_eq_some_iff.mp h
      obtain ⟨rfl, rfl⟩ := Prod.mk.inj hcons
      obtain ⟨d, hd, rfl⟩ := ih hcut
      exact ⟨d, hd, rfl⟩

/-! ### Parts -/

theorem joinWith_cons_cons (sep first next : List Char) (parts : List (List Char)) :
    joinWith sep (first :: next :: parts) = first ++ (sep ++ joinWith sep (next :: parts)) := by
  rw [joinWith, List.intercalate_cons_cons, List.append_assoc]
  rfl

theorem joinWith_singleton (sep part : List Char) : joinWith sep [part] = part := by
  simp [joinWith]

/-- Parts joined in two lots, with the separator between the lots. -/
theorem joinWith_append (sep : List Char) {parts more : List (List Char)} (hparts : parts ≠ [])
    (hmore : more ≠ []) :
    joinWith sep (parts ++ more) = joinWith sep parts ++ (sep ++ joinWith sep more) := by
  induction parts with
  | nil => exact absurd rfl hparts
  | cons part parts ih =>
    cases parts with
    | nil =>
      obtain ⟨next, more, rfl⟩ := List.exists_cons_of_ne_nil hmore
      rw [List.singleton_append, joinWith_cons_cons, joinWith_singleton]
    | cons next parts =>
      rw [List.cons_append, List.cons_append, joinWith_cons_cons, joinWith_cons_cons,
        ← List.cons_append, ih (List.cons_ne_nil _ _), List.append_assoc, List.append_assoc]

/-- The parts of a text, joined again, are the text. -/
theorem joinWith_splitWhere (c : Char) (cs : List Char) :
    joinWith [c] (splitWhere (· == c) cs) = cs := by
  induction cs with
  | nil => rfl
  | cons d cs ih =>
    obtain ⟨part, parts, hparts⟩ := List.exists_cons_of_ne_nil (splitWhere_ne_nil (· == c) cs)
    rw [hparts] at ih
    rw [splitWhere, hparts]
    split
    next hd => rw [joinWith_cons_cons, ih, beq_iff_eq.mp hd]; rfl
    next =>
      cases parts with
      | nil => rw [joinWith_singleton] at ih ⊢; rw [ih]
      | cons next parts => rw [joinWith_cons_cons] at ih ⊢; rw [← ih]; rfl

/-- Parts that were joined by a separator fall apart again. -/
theorem splitWhere_joinWith (hc : p c = true) : ∀ {parts : List (List Char)}, parts ≠ [] →
    (∀ part ∈ parts, ∀ d ∈ part, p d = false) → splitWhere p (joinWith [c] parts) = parts
  | [], hne, _ => absurd rfl hne
  | [part], _, h => by
    rw [joinWith_singleton, splitWhere_of_none (h part (List.mem_singleton_self part))]
  | first :: next :: parts, _, h => by
    rw [joinWith_cons_cons, List.singleton_append, splitWhere_append hc,
      splitWhere_of_none (h first List.mem_cons_self),
      splitWhere_joinWith hc (List.cons_ne_nil next parts)
        fun part hpart => h part (List.mem_cons_of_mem _ hpart)]
    rfl

/-- What is joined is written in the separator and the parts. -/
theorem mem_joinWith {sep : List Char} : ∀ {parts : List (List Char)}, c ∈ joinWith sep parts →
    c ∈ sep ∨ ∃ part ∈ parts, c ∈ part
  | [], h => by cases h
  | [part], h => by
    rw [joinWith_singleton] at h
    exact .inr ⟨part, List.mem_singleton_self _, h⟩
  | first :: next :: parts, h => by
    rw [joinWith_cons_cons, List.mem_append, List.mem_append] at h
    rcases h with h | h | h
    · exact .inr ⟨first, List.mem_cons_self, h⟩
    · exact .inl h
    · rcases mem_joinWith h with h | ⟨part, hpart, h⟩
      · exact .inl h
      · exact .inr ⟨part, List.mem_cons_of_mem _ hpart, h⟩

variable {α β : Type}

theorem mem_of_mapM {f : α → Option β} {b : β} : ∀ {l : List α} {r : List β},
    l.mapM f = some r → b ∈ r → ∃ a ∈ l, f a = some b
  | [], r, h, hb => by
    obtain rfl := Option.some.inj h
    cases hb
  | a :: l, r, h, hb => by
    simp only [List.mapM_cons, Option.bind_eq_bind, Option.bind_eq_some_iff] at h
    obtain ⟨b', ha, r', hr, heq⟩ := h
    obtain rfl := Option.some.inj heq
    rcases List.mem_cons.mp hb with rfl | hb
    · exact ⟨a, List.mem_cons_self, ha⟩
    · obtain ⟨a', ha', hfa⟩ := mem_of_mapM hr hb
      exact ⟨a', List.mem_cons_of_mem _ ha', hfa⟩

theorem mapM_eq_some_of_forall {f : α → Option β} {g : α → β} : ∀ {l : List α},
    (∀ a ∈ l, f a = some (g a)) → l.mapM f = some (l.map g)
  | [], _ => rfl
  | a :: l, h => by
    rw [List.mapM_cons, h a List.mem_cons_self,
      mapM_eq_some_of_forall fun b hb => h b (List.mem_cons_of_mem _ hb)]
    rfl

/-- What was written part by part is read part by part. -/
theorem mapM_map_eq_some {f : α → Option β} {g : β → α} {l : List β}
    (h : ∀ b ∈ l, f (g b) = some b) : (l.map g).mapM f = some l := by
  have hread : ∀ a ∈ l, (f ∘ g) a = some (id a) := h
  rw [List.mapM_map, mapM_eq_some_of_forall hread, List.map_id]

theorem length_of_mapM {f : α → Option β} : ∀ {l : List α} {r : List β},
    l.mapM f = some r → r.length = l.length
  | [], r, h => by
    obtain rfl := Option.some.inj h
    rfl
  | a :: l, r, h => by
    simp only [List.mapM_cons, Option.bind_eq_bind, Option.bind_eq_some_iff] at h
    obtain ⟨b, -, r', hr, heq⟩ := h
    obtain rfl := Option.some.inj heq
    rw [List.length_cons, List.length_cons, length_of_mapM hr]

/-! ### Digits -/

/-- What holds of every digit holds of the digits of a number. -/
theorem of_mem_digitsIn {P : Char → Prop} {base n : Nat} (hbase : 2 ≤ base) (hsmall : base ≤ 36)
    (h : ∀ n < 36, P (digitChar n)) (hc : c ∈ digitsIn base n) : P c := by
  fun_induction digitsIn base n with
  | case1 n hn =>
    obtain rfl := List.mem_singleton.mp hc
    exact h n (by omega)
  | case2 n hn ih =>
    rcases List.mem_append.mp hc with hc | hc
    · exact ih hc
    · obtain rfl := List.mem_singleton.mp hc
      have := Nat.mod_lt n (show 0 < base by omega)
      exact h _ (by omega)

end Tutor.Text
