import Tutor.Json.Decode
import Tutor.Proofs.Json.Spelled

/-!
# Every value is read

A value of the grammar is read as a tree that is whole, whatever blanks stand in front of it and
whatever it is that ends it. The tree of an object has the members of its text, in order: the text
that a key spells, if it spells one, and what the value is read as.

* `Yields` – what characters are read as.
* `MemberYields`, `yields_objectText` – objects, from what their members are read as.
* `exists_yields` – every value is read.
* `ofSymbols_of_yields` – whole texts.
-/

namespace Tutor.Json

open Tutor.Text

variable {cs : List Char} {rest : List Symbol} {t : Tree} {p : Padded} {e : Keyed}
  {m : Option String × Tree}

/-! ### Blanks -/

theorem skipBlanks_append (h : AreBlank cs) (rest : List Symbol) :
    skipBlanks (cs.map some ++ rest) = skipBlanks rest := by
  induction cs with
  | nil => rfl
  | cons c cs ih =>
    have hc := h c List.mem_cons_self
    have hmore := ih fun d hd => h d (List.mem_cons_of_mem _ hd)
    simp only [List.mem_cons, List.not_mem_nil, or_false] at hc
    rcases hc with rfl | rfl | rfl | rfl
    all_goals
      rw [List.map_cons, List.cons_append, skipBlanks]
      exact hmore

theorem skipBlanks_append_cons (h : AreBlank cs) {c : Char} (hc : opens c = true) :
    skipBlanks (cs.map some ++ some c :: rest) = some c :: rest := by
  rw [skipBlanks_append h, skipBlanks_cons hc]

theorem ends_append (h : AreBlank cs) (hends : Ends rest) : Ends (cs.map some ++ rest) := by
  cases cs with
  | nil => exact hends
  | cons c cs =>
    have hc := h c List.mem_cons_self
    simp only [List.mem_cons, List.not_mem_nil, or_false] at hc
    rcases hc with rfl | rfl | rfl | rfl <;> exact .cons (by decide)

/-! ### What characters are read as -/

/-- Characters are read as a tree, whatever blanks stand in front of them, if what follows does not
go on with a number. -/
structure Yields (cs : List Char) (t : Tree) : Prop where
  /-- They begin with no blank, and with nothing that would close an array. -/
  begins : ∃ c more, cs = c :: more ∧ opens c = true ∧ c ≠ ']'
  comes : ∀ text rest, skipBlanks text = cs.map some ++ rest → Ends rest →
    Comes (readValue text) t rest

theorem yields_word {c : Char} {word : List Char} {value : Tree}
    (hword : (c, c :: word, value) ∈ [('n', "null".toList, .null),
      ('t', "true".toList, .bool true), ('f', "false".toList, .bool false)])
    (hc : opens c = true ∧ c ≠ ']') : Yields (c :: word) value :=
  ⟨⟨c, word, rfl, hc⟩, fun _ _ hskip _ => comes_word hword hskip hskip⟩

theorem yields_null : Yields "null".toList .null :=
  @yields_word 'n' "ull".toList _ (by simp) (by decide)

theorem yields_bool (b : Bool) : Yields (if b then "true" else "false").toList (.bool b) := by
  cases b with
  | true => exact @yields_word 't' "rue".toList _ (by simp) (by decide)
  | false => exact @yields_word 'f' "alse".toList _ (by simp) (by decide)

theorem yields_literal {ps : List Piece} (h : LiteralOf cs ps) :
    Yields cs (.text ((Piece.spell? ps).map String.ofList)) := by
  obtain ⟨body, rfl, hread⟩ := h
  exact ⟨⟨'"', body, rfl, rfl, by decide⟩, fun text rest hskip _ => comes_text hskip (hread rest)⟩

theorem yields_spells {s : String} (h : Spells s cs) : Yields cs (.text (some s)) := by
  obtain ⟨ps, hps, hspell⟩ := exists_literalOf_spells h
  have hyields := yields_literal hps
  rwa [hspell, Option.map_some, String.ofList_toList] at hyields

/-- A number begins with a digit or a minus sign. -/
theorem exists_cons_of_isNumber (h : IsNumber cs) :
    ∃ c more, cs = c :: more ∧ (c.isDigit = true ∨ c = '-') := by
  obtain ⟨sign, whole, fraction, power, hsign, hwhole, -, -, rfl⟩ := h
  obtain ⟨d, ds, rfl⟩ := List.exists_cons_of_ne_nil hwhole.1.1
  simp only [List.mem_cons, List.not_mem_nil, or_false] at hsign
  rcases hsign with rfl | rfl
  · exact ⟨d, _, rfl, .inl (hwhole.1.2 d List.mem_cons_self)⟩
  · exact ⟨'-', _, rfl, .inr rfl⟩

theorem exists_yields_number (h : IsNumber cs) : ∃ n, Yields cs (.number n) := by
  obtain ⟨c, more, rfl, hc⟩ := exists_cons_of_isNumber h
  have hother : ∀ d, d.isDigit = false ∧ d ≠ '-' → c ≠ d := by
    rintro d ⟨hd, hminus⟩ rfl
    rcases hc with hc | rfl
    · rw [hd] at hc
      cases hc
    · exact hminus rfl
  have hopens : opens c = true := by
    simp only [opens, Bool.not_eq_true', Bool.or_eq_false_iff, beq_eq_false_iff_ne]
    exact ⟨⟨⟨hother _ (by decide), hother _ (by decide)⟩, hother _ (by decide)⟩,
      hother _ (by decide)⟩
  have hmember : c ∉ ['"', '[', '\x7b', 'n', 't', 'f'] := by
    simp only [List.mem_cons, List.not_mem_nil, or_false, not_or]
    exact ⟨hother _ (by decide), hother _ (by decide), hother _ (by decide), hother _ (by decide),
      hother _ (by decide), hother _ (by decide)⟩
  obtain ⟨n, hn⟩ := Numeral.exists_read? h
  refine ⟨n, ⟨c, more, rfl, hopens, hother _ (by decide)⟩, fun text rest hskip hends => ?_⟩
  exact comes_number hskip hmember (hn rest hends)

/-! ### Arrays and objects -/

variable {ps : List Padded} {ts : List Tree} {es : List Keyed} {ms : List (Option String × Tree)}

/-- In front of a value, only blanks are passed over. -/
theorem skipBlanks_padded (hspaced : p.IsSpaced) (h : Yields p.inner t) (rest : List Symbol) :
    skipBlanks (p.chars.map some ++ rest) = p.inner.map some ++ (p.behind.map some ++ rest) := by
  obtain ⟨c, more, hinner, hopens, -⟩ := h.begins
  rw [Padded.chars, List.map_append, List.map_append, List.append_assoc, List.append_assoc,
    skipBlanks_append hspaced.1, hinner]
  exact skipBlanks_cons hopens

theorem comes_padded (hspaced : p.IsSpaced) (h : Yields p.inner t) (hends : Ends rest) :
    Comes (readValue (p.chars.map some ++ rest)) t (p.behind.map some ++ rest) :=
  h.comes _ _ (skipBlanks_padded hspaced h rest) (ends_append hspaced.2 hends)

/-- An item of an array is not its end. -/
theorem skipBlanks_items (hspaced : p.IsSpaced) (h : Yields p.inner t) (blanks : List Char)
    (ps : List Padded) (rest after : List Symbol) :
    skipBlanks ((listed blanks ((p :: ps).map Padded.chars)).map some ++ rest) ≠
      some ']' :: after := by
  obtain ⟨more, hmore⟩ := exists_listed_cons blanks p.chars (ps.map Padded.chars)
  obtain ⟨c, inner, hinner, -, hbracket⟩ := h.begins
  rw [List.map_cons, hmore, List.map_append, List.append_assoc, skipBlanks_padded hspaced h, hinner]
  intro heq
  exact hbracket (Option.some.inj (List.cons.inj heq).1)

theorem comes_listed (blanks : List Char) (rest : List Symbol) (hne : ps ≠ [])
    (h : List.Forall₂ (fun p t => p.IsSpaced ∧ Yields p.inner t) ps ts) :
    Comes (readItems ((listed blanks (ps.map Padded.chars)).map some ++ some ']' :: rest)) ts
      rest := by
  induction h with
  | nil => exact absurd rfl hne
  | @cons p t ps ts hfirst hmore ih =>
    cases hmore with
    | nil =>
      rw [List.map_singleton, listed_singleton]
      exact comes_lastItem (comes_padded hfirst.1 hfirst.2 (.cons (by decide)))
        (skipBlanks_append_cons hfirst.1.2 rfl)
    | @cons next _ ps _ hnext _ =>
      rw [List.map_cons, List.map_cons, listed_cons_cons, List.map_append, List.append_assoc]
      exact comes_items (comes_padded hfirst.1 hfirst.2 (.cons (by decide)))
        (skipBlanks_append_cons hfirst.1.2 rfl) (skipBlanks_items hnext.1 hnext.2 blanks ps _)
        (ih (List.cons_ne_nil _ _))

theorem yields_arrayText {blanks : List Char} (hblanks : AreBlank blanks)
    (h : List.Forall₂ (fun p t => p.IsSpaced ∧ Yields p.inner t) ps ts) :
    Yields (arrayText blanks ps) (.array ts true) := by
  refine ⟨⟨'[', _, rfl, rfl, by decide⟩, fun text rest hskip _ => ?_⟩
  have hopen : skipBlanks text = some '[' ::
      ((listed blanks (ps.map Padded.chars)).map some ++ some ']' :: rest) := by
    rw [hskip, arrayText]
    simp
  cases h with
  | nil => exact comes_emptyArray hopen (skipBlanks_append_cons hblanks rfl)
  | cons hfirst hmore =>
    exact comes_array hopen (skipBlanks_items hfirst.1 hfirst.2 blanks _ _)
      (comes_listed blanks rest (List.cons_ne_nil _ _) (.cons hfirst hmore))

/-- What a member of an object is read as. -/
structure MemberYields (e : Keyed) (m : Option String × Tree) : Prop where
  spaced : e.IsSpaced
  key : ∃ pieces, LiteralOf e.key.inner pieces ∧
    (Piece.spell? pieces).map String.ofList = m.1
  value : Yields e.value.inner m.2

theorem memberYields_names {key? : Option String} (hspaced : e.IsSpaced)
    (hkey : Names key? e.key.inner) (hvalue : Yields e.value.inner t) :
    MemberYields e (key?, t) :=
  ⟨hspaced, exists_literalOf_names hkey, hvalue⟩

/-- A member begins with a quote; behind its key stands a colon, and behind that its value. -/
theorem MemberYields.exists_key (h : MemberYields e m) (rest : List Symbol) :
    ∃ afterQuote pieces afterKey, skipBlanks (e.chars.map some ++ rest) = some '"' :: afterQuote ∧
      Piece.read? afterQuote = some (pieces, afterKey) ∧
      (Piece.spell? pieces).map String.ofList = m.1 ∧
      skipBlanks afterKey = some ':' :: (e.value.chars.map some ++ rest) := by
  obtain ⟨pieces, ⟨body, hbody, hread⟩, hspell⟩ := h.key
  refine ⟨_, pieces, _, ?_, hread _, hspell, skipBlanks_append_cons h.spaced.1.2 rfl⟩
  simp only [Keyed.chars, Padded.chars, List.map_append, List.append_assoc, List.map_cons,
    List.cons_append, skipBlanks_append h.spaced.1.1, hbody]
  exact skipBlanks_cons rfl

/-- A member of an object is not its end. -/
theorem skipBlanks_members (h : MemberYields e m) (blanks : List Char) (es : List Keyed)
    (rest after : List Symbol) :
    skipBlanks ((listed blanks ((e :: es).map Keyed.chars)).map some ++ rest) ≠
      some '\x7d' :: after := by
  obtain ⟨more, hmore⟩ := exists_listed_cons blanks e.chars (es.map Keyed.chars)
  obtain ⟨afterQuote, _, _, hquote, -⟩ := h.exists_key (more.map some ++ rest)
  rw [List.map_cons, hmore, List.map_append, List.append_assoc, hquote]
  intro heq
  cases heq

theorem comes_listedMembers (blanks : List Char) (rest : List Symbol) (hne : es ≠ [])
    (h : List.Forall₂ MemberYields es ms) :
    Comes (readMembers ((listed blanks (es.map Keyed.chars)).map some ++ some '\x7d' :: rest)) ms
      rest := by
  induction h with
  | nil => exact absurd rfl hne
  | @cons e m es ms hfirst hmore ih =>
    obtain ⟨key?, t⟩ := m
    cases hmore with
    | nil =>
      obtain ⟨_, _, _, hquote, hkey, rfl, hcolon⟩ := hfirst.exists_key (some '\x7d' :: rest)
      rw [List.map_singleton, listed_singleton]
      exact comes_lastMember hquote hkey hcolon
        (comes_padded hfirst.spaced.2 hfirst.value (.cons (by decide)))
        (skipBlanks_append_cons hfirst.spaced.2.2 rfl)
    | @cons next _ es _ hnext _ =>
      rw [List.map_cons, List.map_cons, listed_cons_cons, List.map_append, List.append_assoc]
      obtain ⟨_, _, _, hquote, hkey, rfl, hcolon⟩ := hfirst.exists_key
        ((',' :: listed blanks (next.chars :: es.map Keyed.chars)).map some ++ some '\x7d' :: rest)
      exact comes_members hquote hkey hcolon
        (comes_padded hfirst.spaced.2 hfirst.value (.cons (by decide)))
        (skipBlanks_append_cons hfirst.spaced.2.2 rfl) (ih (List.cons_ne_nil _ _))

theorem yields_objectText {blanks : List Char} (hblanks : AreBlank blanks)
    (h : List.Forall₂ MemberYields es ms) : Yields (objectText blanks es) (.object ms true) := by
  refine ⟨⟨'\x7b', _, rfl, rfl, by decide⟩, fun text rest hskip _ => ?_⟩
  have hopen : skipBlanks text = some '\x7b' ::
      ((listed blanks (es.map Keyed.chars)).map some ++ some '\x7d' :: rest) := by
    rw [hskip, objectText]
    simp
  cases h with
  | nil => exact comes_emptyObject hopen (skipBlanks_append_cons hblanks rfl)
  | cons hfirst hmore =>
    exact comes_object hopen (skipBlanks_members hfirst blanks _ _)
      (comes_listedMembers blanks rest (List.cons_ne_nil _ _) (.cons hfirst hmore))

/-! ### Every value -/

theorem exists_forall₂ {α β : Type} {P : β → Prop} {R : α → β → Prop} {as : List α}
    (h : ∀ a ∈ as, ∃ b, P b ∧ R a b) : ∃ bs, List.Forall₂ R as bs ∧ ∀ b ∈ bs, P b := by
  induction as with
  | nil => exact ⟨[], .nil, by simp⟩
  | cons a as ih =>
    obtain ⟨b, hb, hab⟩ := h a List.mem_cons_self
    obtain ⟨bs, hbs, hall⟩ := ih fun a ha => h a (List.mem_cons_of_mem _ ha)
    exact ⟨b :: bs, .cons hab hbs, List.forall_mem_cons.mpr ⟨hb, hall⟩⟩

theorem allWhole_of_forall (h : ∀ t ∈ ts, t.isWhole = true) : allWhole ts = true := by
  induction ts with
  | nil => rfl
  | cons t ts ih =>
    obtain ⟨hfirst, hmore⟩ := List.forall_mem_cons.mp h
    rw [allWhole, hfirst, ih hmore]
    rfl

theorem allMembersWhole_of_forall (h : ∀ m ∈ ms, m.2.isWhole = true) :
    allMembersWhole ms = true := by
  induction ms with
  | nil => rfl
  | cons m ms ih =>
    obtain ⟨hfirst, hmore⟩ := List.forall_mem_cons.mp h
    rw [allMembersWhole, hfirst, ih hmore]
    rfl

/-- Every value is read as a tree that is whole. By induction on the value. -/
theorem exists_yields (h : IsValue cs) : ∃ t, t.isWhole = true ∧ Yields cs t := by
  induction h with
  | word hword =>
    simp only [List.mem_cons, List.not_mem_nil, or_false] at hword
    rcases hword with rfl | rfl | rfl
    · exact ⟨_, rfl, yields_null⟩
    · exact ⟨_, rfl, yields_bool true⟩
    · exact ⟨_, rfl, yields_bool false⟩
  | number hnumber =>
    obtain ⟨n, hn⟩ := exists_yields_number hnumber
    exact ⟨_, rfl, hn⟩
  | literal hliteral =>
    obtain ⟨pieces, hpieces⟩ := exists_literalOf hliteral
    exact ⟨_, rfl, yields_literal hpieces⟩
  | @array blanks items hblanks hspaced _ ih =>
    have heach : ∀ p ∈ items, ∃ t, t.isWhole = true ∧ (p.IsSpaced ∧ Yields p.inner t) := by
      intro p hp
      obtain ⟨t, ht, hyields⟩ := ih p hp
      exact ⟨t, ht, hspaced p hp, hyields⟩
    obtain ⟨ts, hts, hwhole⟩ := exists_forall₂ heach
    exact ⟨.array ts true, allWhole_of_forall hwhole, yields_arrayText hblanks hts⟩
  | @object blanks entries hblanks hspaced hkeys _ ih =>
    have heach : ∀ e ∈ entries, ∃ m : Option String × Tree, m.2.isWhole = true ∧
        MemberYields e m := by
      intro e he
      obtain ⟨t, ht, hyields⟩ := ih e he
      obtain ⟨pieces, hpieces⟩ := exists_literalOf (hkeys e he)
      exact ⟨(_, t), ht, hspaced e he, ⟨pieces, hpieces, rfl⟩, hyields⟩
    obtain ⟨ms, hms, hwhole⟩ := exists_forall₂ heach
    exact ⟨.object ms true, allMembersWhole_of_forall hwhole, yields_objectText hblanks hms⟩

/-- A text with nothing but blanks around its value is a document of what that is read as. -/
theorem ofSymbols_of_yields (hspaced : p.IsSpaced) (h : Yields p.inner t) :
    Document.ofSymbols (p.chars.map some) = ⟨t, true⟩ := by
  have hends : Ends [] := fun c more heq => by cases heq
  have hread := comes_padded hspaced h hends
  rw [List.append_nil, List.append_nil] at hread
  have hbehind : skipBlanks (p.behind.map some) = [] := by
    have hskip := skipBlanks_append hspaced.2 []
    rwa [List.append_nil] at hskip
  obtain ⟨hrest, hvalue⟩ := hread.exists
  rw [Document.ofSymbols, hvalue]
  dsimp only
  rw [hbehind]
  rfl

end Tutor.Json
