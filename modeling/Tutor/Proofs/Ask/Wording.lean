import Mathlib.Data.List.Nodup
import Tutor.Proofs.Ask.Decoding
import Tutor.Proofs.Json.Accepted
import Tutor.Proofs.Text.Utf8

/-!
# Requests in other words

One request can be written in many ways: with its fields in any order, among others that nobody
asked for, with blanks, with characters escaped or not, and with or without what is the default
anyway. All of these texts are read as the request, unless a key among the others spells no text:
then the text is refused.

* `Field.Writes` – the ways to write the value of a field.
* `Words`, `Carries` – the objects, and the texts, that say what a request says.
* `carries_render` – the text that a request is written as is one of them.
* `Suits`, `ofTree_of_suits`, `ofTree_of_nameless` – what is made of the members of an object.
* `read_in_any_words`, `refused_for_a_key` – what is read, and what is refused.
-/

namespace Tutor.Ask

open Tutor.Json Tutor.Number Tutor.Text

/-! ### Ways to write requests -/

/-- The keys of all fields. -/
def Field.names : List String := Field.all.map Field.name

/-- The ways to write a text that may be missing. -/
def WritesText? : Option String → List Char → Prop
  | none, cs => cs = "null".toList
  | some s, cs => Spells s cs

/-- The way to write a truth value. -/
def WritesTruth (b : Bool) (cs : List Char) : Prop := cs = (if b then "true" else "false").toList

/-- The ways to write what a field holds. A temperature is written only if there is none. -/
def Field.Writes : (k : Field) → k.Content → List Char → Prop
  | .question | .model | .session => WritesText?
  | .temperature => fun v cs => v = none ∧ cs = "null".toList
  | .simplify | .playAudio => WritesTruth
  | .language => Spells

/-- The members of an object that say what a request says, each with the text that its key spells,
if it spells one. -/
structure Words (r : Request) (members : List (Option String × Keyed)) : Prop where
  spaced : ∀ m ∈ members, m.2.IsSpaced
  named : ∀ m ∈ members, Names m.1 m.2.key.inner
  /-- No field comes twice. -/
  once : ((members.filterMap Prod.fst).filter (· ∈ Field.names)).Nodup
  /-- What is given for a field is what the request has. -/
  given : ∀ (k : Field) e, (some k.name, e) ∈ members → k.Writes (k.get r) e.value.inner
  /-- Only what is the default may be left out. -/
  left : ∀ k : Field, some k.name ∉ members.map Prod.fst → k.get r = k.get {}
  /-- Beside the fields there may be any values, under any keys. -/
  other : ∀ m ∈ members, (∀ k : Field, some k.name ≠ m.1) → IsValue m.2.value.inner

/-- A text says what a request says, by an object with such members. -/
def Carries (r : Request) (members : List (Option String × Keyed)) (s : String) : Prop :=
  ∃ blanks, ∃ p : Padded, s.toList = p.chars ∧ p.IsSpaced ∧ AreBlank blanks ∧
    p.inner = objectText blanks (members.map Prod.snd) ∧ Words r members

/-- A text is read as a request: as a string or as bytes, and whether the end of the text matters
or not. -/
structure ReadsAs (r : Request) (s : String) : Prop where
  text : (Document.ofText s).decode Request.ofTree = .ok r
  bytes : (Document.ofBytes (bytesOf s)).decode Request.ofTree = .ok r
  front : (Document.ofBytes (bytesOf s)).decodeFront Request.ofTree = .ok r

/-- A text is refused as no JSON, however it is read. -/
structure IsRefused (s : String) : Prop where
  text : (Document.ofText s).decode Request.ofTree = .error .malformed
  bytes : (Document.ofBytes (bytesOf s)).decode Request.ofTree = .error .malformed
  front : (Document.ofBytes (bytesOf s)).decodeFront Request.ofTree = .error .malformed

variable {r : Request} {members : List (Option String × Keyed)} {s : String} {k : Field}
  {cs : List Char}

theorem Field.mem_all (k : Field) : k ∈ Field.all := by
  cases k <;> decide

theorem Field.name_mem_names (k : Field) : k.name ∈ Field.names := List.mem_map_of_mem k.mem_all

/-! ### What a request is written as -/

/-- A member as it is written by default. -/
def plainKeyed (m : String × Value) : Keyed := ⟨⟨[], quoted m.1, []⟩, ⟨[], m.2.chars, []⟩⟩

theorem charsOfMembers_eq : ∀ ms : List (String × Value),
    Value.charsOfMembers ms = listed [] (ms.map fun m => (plainKeyed m).chars)
  | [] => rfl
  | [(key, v)] => by
    rw [List.map_singleton, listed_singleton]
    simp [Value.charsOfMembers, plainKeyed, Keyed.chars, Padded.chars]
  | (key, v) :: next :: ms => by
    rw [List.map_cons, List.map_cons, listed_cons_cons, Value.charsOfMembers,
      charsOfMembers_eq (next :: ms), List.map_cons]
    · simp [plainKeyed, Keyed.chars, Padded.chars]
    · exact List.cons_ne_nil _ _

theorem chars_object (ms : List (String × Value)) :
    (Value.object ms).chars = objectText [] (ms.map plainKeyed) := by
  rw [Value.chars, objectText, charsOfMembers_eq, List.map_map]
  rfl

theorem writesText?_textOrNull (v : Option String) : WritesText? v (Value.textOrNull v).chars := by
  cases v with
  | none => rfl
  | some s => exact spells_quoted s

theorem writesTruth_bool (b : Bool) : WritesTruth b (Value.bool b).chars := by
  cases b <;> rfl

/-- What is written for a field. -/
def Field.written (r : Request) : Field → Value
  | .question => .textOrNull r.question
  | .model => .textOrNull r.model
  | .temperature => .null
  | .simplify => .bool r.simplify
  | .language => .text r.language
  | .playAudio => .bool r.playAudio
  | .session => .textOrNull r.session

theorem writes_written (hr : r.temperature = none) (k : Field) :
    k.Writes (k.get r) (k.written r).chars := by
  cases k with
  | question => exact writesText?_textOrNull _
  | model => exact writesText?_textOrNull _
  | temperature => exact ⟨hr, rfl⟩
  | simplify => exact writesTruth_bool _
  | language => exact spells_quoted _
  | playAudio => exact writesTruth_bool _
  | session => exact writesText?_textOrNull _

theorem toValue_eq (hr : r.temperature = none) :
    r.toValue = .object (Field.all.map fun k => (k.name, k.written r)) := by
  rw [Request.toValue, hr]
  rfl

/-- The members that a request is written with. -/
def written (r : Request) : List (Option String × Keyed) :=
  Field.all.map fun k => (some k.name, plainKeyed (k.name, k.written r))

theorem words_written (hr : r.temperature = none) : Words r (written r) := by
  have hnames : (written r).filterMap Prod.fst = Field.names := rfl
  have hkeys : (written r).map Prod.fst = Field.names.map some := rfl
  refine ⟨fun m hm => ?_, fun m hm => ?_, ?_, fun k e hmem => ?_, fun k hleft => ?_,
    fun m hm hother => ?_⟩
  · obtain ⟨k, -, rfl⟩ := List.mem_map.mp hm
    exact ⟨⟨areBlank_nil, areBlank_nil⟩, areBlank_nil, areBlank_nil⟩
  · obtain ⟨k, -, rfl⟩ := List.mem_map.mp hm
    exact spells_quoted _
  · rw [hnames]
    exact List.Nodup.filter _ (show Field.names.Nodup by decide)
  · obtain ⟨k', -, heq⟩ := List.mem_map.mp hmem
    obtain ⟨hname, rfl⟩ := Prod.mk.inj heq
    obtain rfl := Request.layout.name_injective (Option.some.inj hname)
    exact writes_written hr k'
  · rw [hkeys] at hleft
    exact absurd (List.mem_map_of_mem k.name_mem_names) hleft
  · obtain ⟨k, -, rfl⟩ := List.mem_map.mp hm
    exact absurd rfl (hother k)

/-- What a request is written as says what the request says. -/
theorem carries_render (hr : r.temperature = none) : Carries r (written r) r.toValue.render := by
  refine ⟨[], ⟨[], r.toValue.chars, []⟩, ?_, ⟨areBlank_nil, areBlank_nil⟩, areBlank_nil, ?_,
    words_written hr⟩
  · rw [Value.render, String.toList_ofList, Padded.chars, List.nil_append, List.append_nil]
  · rw [toValue_eq hr, chars_object, written, List.map_map, List.map_map]
    rfl

/-! ### Such texts are JSON -/

theorem Field.isValue_of_writes {v : k.Content} (h : k.Writes v cs) : IsValue cs := by
  have hnull : IsValue "null".toList := .word (by simp)
  have htext : ∀ {v : Option String}, WritesText? v cs → IsValue cs := by
    rintro (_ | s) h
    · obtain rfl : cs = "null".toList := h
      exact hnull
    · exact .literal (Spells.isLiteral h)
  have htruth : ∀ {b : Bool}, WritesTruth b cs → IsValue cs := by
    rintro b rfl
    cases b <;> exact .word (by simp)
  cases k with
  | question => exact htext h
  | model => exact htext h
  | temperature =>
    obtain ⟨-, rfl⟩ : v = none ∧ cs = "null".toList := h
    exact hnull
  | simplify => exact htruth h
  | language => exact .literal (Spells.isLiteral h)
  | playAudio => exact htruth h
  | session => exact htext h

/-- An object that says what a request says is a value, whatever its keys. -/
theorem isValue_of_words (h : Words r members) {blanks : List Char} (hblanks : AreBlank blanks) :
    IsValue (objectText blanks (members.map Prod.snd)) := by
  refine .object hblanks ?_ ?_ ?_ <;> intro e he <;> obtain ⟨m, hm, rfl⟩ := List.mem_map.mp he
  · exact h.spaced m hm
  · exact (h.named m hm).isLiteral
  · by_cases hknown : ∃ k : Field, some k.name = m.1
    · obtain ⟨k, hk⟩ := hknown
      exact Field.isValue_of_writes (h.given k m.2 (hk ▸ hm))
    · exact h.other m hm fun k hk => hknown ⟨k, hk⟩

/-! ### Reading them -/

theorem exists_optional_of_writes {v : Option String} (h : WritesText? v cs) :
    ∃ t, t.optional Tree.string = .ok v ∧ Yields cs t := by
  cases v with
  | none =>
    obtain rfl : cs = "null".toList := h
    exact ⟨.null, rfl, yields_null⟩
  | some s => exact ⟨.text (some s), rfl, yields_spells h⟩

theorem exists_truth_of_writes {b : Bool} (h : WritesTruth b cs) :
    ∃ t, t.truth = .ok b ∧ Yields cs t := by
  obtain rfl : cs = (if b then "true" else "false").toList := h
  exact ⟨.bool b, rfl, yields_bool b⟩

/-- What is written for a field is read as what the field holds. -/
theorem Field.exists_decode_of_writes {v : k.Content} (h : k.Writes v cs) :
    ∃ t, k.decode t = .ok v ∧ Yields cs t := by
  cases k with
  | question => exact exists_optional_of_writes h
  | model => exact exists_optional_of_writes h
  | temperature =>
    obtain ⟨rfl, rfl⟩ : v = none ∧ cs = "null".toList := h
    exact ⟨.null, rfl, yields_null⟩
  | simplify => exact exists_truth_of_writes h
  | language => exact ⟨.text (some v), rfl, yields_spells h⟩
  | playAudio => exact exists_truth_of_writes h
  | session => exact exists_optional_of_writes h

/-- A member of an object suits a request: a field holds what the request has, and anything else is
whole. -/
structure Suits (r : Request) (m : Option String × Tree) : Prop where
  known : ∀ k : Field, some k.name = m.1 → k.decode m.2 = .ok (k.get r)
  unknown : (∀ k : Field, some k.name ≠ m.1) → m.2.isWhole = true

/-- Among members whose keys spell texts, the fields are found, each with what stands there. -/
theorem exists_picks {ms : List (Option String × Tree)} (hnamed : none ∉ ms.map Prod.fst)
    (hsuits : ∀ m ∈ ms, Suits r m) :
    ∃ given, Request.layout.Picks Field.all ms given ∧
      given.map (fun y => y.1.name) = (ms.filterMap Prod.fst).filter (· ∈ Field.names) ∧
      ∀ y ∈ given, (some y.1.name, y.2) ∈ ms := by
  induction ms with
  | nil => exact ⟨[], .nil, rfl, by simp⟩
  | cons m ms ih =>
    obtain ⟨key?, t⟩ := m
    rw [List.map_cons, List.mem_cons, not_or] at hnamed
    obtain ⟨name, rfl⟩ := Option.ne_none_iff_exists'.mp (Ne.symm hnamed.1)
    obtain ⟨hfirst, hmore⟩ := List.forall_mem_cons.mp hsuits
    obtain ⟨given, hpicks, hnames, hgiven⟩ := ih hnamed.2 hmore
    have hnext : ((some name, t) :: ms).filterMap Prod.fst = name :: ms.filterMap Prod.fst := rfl
    rw [hnext]
    by_cases hknown : ∃ k, Field.name k = name
    · obtain ⟨k, rfl⟩ := hknown
      refine ⟨(k, t) :: given, .picked k.mem_all hpicks, ?_, ?_⟩
      · rw [List.map_cons, List.filter_cons, if_pos (decide_eq_true k.name_mem_names), hnames]
      · refine List.forall_mem_cons.mpr ⟨List.mem_cons_self, fun y hy => ?_⟩
        exact List.mem_cons_of_mem _ (hgiven y hy)
    · have hunknown : ∀ k, Field.name k ≠ name := fun k hk => hknown ⟨k, hk⟩
      have hwhole := hfirst.unknown fun k hk => hunknown k (Option.some.inj hk)
      refine ⟨given, .passed (fun k _ => hunknown k) hwhole hpicks, ?_, ?_⟩
      · rw [List.filter_cons_of_neg, hnames]
        intro hmem
        obtain ⟨k, -, hk⟩ := List.mem_map.mp (of_decide_eq_true hmem)
        exact hunknown k hk
      · exact fun y hy => List.mem_cons_of_mem _ (hgiven y hy)

/-- Members that suit a request give its fields, if all their keys spell texts and no field comes
twice. -/
theorem exists_gives {ms : List (Option String × Tree)} (hnamed : none ∉ ms.map Prod.fst)
    (hsuits : ∀ m ∈ ms, Suits r m)
    (honce : ((ms.filterMap Prod.fst).filter (· ∈ Field.names)).Nodup) :
    ∃ given, Request.layout.Gives Field.all (.object ms true) given ∧
      given.map (fun y => y.1.name) = (ms.filterMap Prod.fst).filter (· ∈ Field.names) ∧
      ∀ k t, (k, t) ∈ given → k.decode t = .ok (k.get r) := by
  obtain ⟨given, hpicks, hnames, hgiven⟩ := exists_picks hnamed hsuits
  refine ⟨given, .object hpicks ?_, hnames, fun k t hmem => ?_⟩
  · refine List.Nodup.of_map Field.name ?_
    rw [List.map_map]
    exact hnames ▸ honce
  · exact (hsuits _ (hgiven _ hmem)).known k rfl

/-- Members that suit a request are read as the request, if all their keys spell texts. -/
theorem ofTree_of_suits {ms : List (Option String × Tree)} (hnamed : none ∉ ms.map Prod.fst)
    (hsuits : ∀ m ∈ ms, Suits r m)
    (honce : ((ms.filterMap Prod.fst).filter (· ∈ Field.names)).Nodup)
    (hleft : ∀ k : Field, some k.name ∉ ms.map Prod.fst → k.get r = k.get {}) :
    Request.ofTree (.object ms true) = .ok r := by
  obtain ⟨given, hgives, hnames, hdecoded⟩ := exists_gives hnamed hsuits honce
  refine Request.ofTree_eq_ok_iff.mpr ⟨given, hgives, hdecoded, fun k hnone => ?_⟩
  refine hleft k fun hmem => ?_
  -- Were the field among the members, it would have been given.
  have hname : Field.name k ∈ given.map fun y => y.1.name := by
    rw [hnames]
    obtain ⟨m, hm, hk⟩ := List.mem_map.mp hmem
    exact List.mem_filter.mpr
      ⟨List.mem_filterMap.mpr ⟨m, hm, hk⟩, decide_eq_true k.name_mem_names⟩
  obtain ⟨y, hy, hk⟩ := List.mem_map.mp hname
  obtain rfl := Request.layout.name_injective hk
  exact hnone y.2 hy

/-- A key that spells no text is no JSON, though what stands in front of it is read. -/
theorem ofTree_of_nameless {ms : List (Option String × Tree)} (hnone : none ∈ ms.map Prod.fst)
    (hsuits : ∀ m ∈ ms, Suits r m)
    (honce : ((ms.filterMap Prod.fst).filter (· ∈ Field.names)).Nodup) :
    Request.ofTree (.object ms true) = .error .malformed := by
  -- The first such key ends the reading.
  obtain ⟨keys, more, hkeys, hfirst⟩ := List.eq_append_cons_of_mem hnone
  obtain ⟨front, back, rfl, rfl, hback⟩ := List.map_eq_append_iff.mp hkeys
  obtain ⟨⟨key?, t⟩, rest, rfl, rfl, -⟩ := List.map_eq_cons_iff.mp hback
  have hsub : (front.filterMap Prod.fst).Sublist
      ((front ++ (none, t) :: rest).filterMap Prod.fst) :=
    (List.sublist_append_left front _).filterMap _
  obtain ⟨given, hgives, -, hdecoded⟩ := exists_gives hfirst
    (fun m hm => hsuits m (List.mem_append_left _ hm)) (honce.sublist (hsub.filter _))
  obtain ⟨r', hr'⟩ := Request.exists_ofTree_iff.mpr ⟨given, hgives, fun k t hmem =>
    Field.exists_decode_iff.mp ⟨_, hdecoded k t hmem⟩⟩
  exact Layout.fromMembers_nameless hr'

/-- What a member is read as suits the request that the members say. -/
theorem exists_member (h : Words r members) {m : Option String × Keyed} (hm : m ∈ members) :
    ∃ y : Option String × Tree, Suits r y ∧ m.1 = y.1 ∧ MemberYields m.2 y := by
  have hkey : ∀ t, Yields m.2.value.inner t → MemberYields m.2 (m.1, t) :=
    fun _ => memberYields_names (h.spaced m hm) (h.named m hm)
  by_cases hknown : ∃ k : Field, some k.name = m.1
  · obtain ⟨k, hk⟩ := hknown
    obtain ⟨t, hdecode, hyields⟩ := Field.exists_decode_of_writes (h.given k m.2 (hk ▸ hm))
    refine ⟨(m.1, t), ⟨fun k' hk' => ?_, fun hunknown => absurd hk (hunknown k)⟩, rfl,
      hkey t hyields⟩
    obtain rfl := Request.layout.name_injective (Option.some.inj (hk.trans hk'.symm))
    exact hdecode
  · have hunknown : ∀ k : Field, some k.name ≠ m.1 := fun k hk => hknown ⟨k, hk⟩
    obtain ⟨t, hwhole, hyields⟩ := exists_yields (h.other m hm hunknown)
    exact ⟨(m.1, t), ⟨fun k hk => absurd hk (hunknown k), fun _ => hwhole⟩, rfl, hkey t hyields⟩

/-- The text of an object that says what a request says is read as members that suit the request. -/
theorem exists_document (h : Carries r members s) :
    ∃ ms : List (Option String × Tree), ms.map Prod.fst = members.map Prod.fst ∧
      (∀ m ∈ ms, Suits r m) ∧ Document.ofText s = ⟨.object ms true, true⟩ ∧
      Document.ofBytes (bytesOf s) = ⟨.object ms true, true⟩ := by
  obtain ⟨blanks, p, hs, hspaced, hblanks, hinner, hwords⟩ := h
  obtain ⟨ms, hms, hsuits⟩ := exists_forall₂ fun m hm => exists_member hwords hm
  have hkeys : ms.map Prod.fst = members.map Prod.fst := by
    rw [← List.forall₂_eq_eq_eq, List.forall₂_map_left_iff, List.forall₂_map_right_iff]
    exact hms.flip.imp fun _ _ hm => hm.1.symm
  have hyields : Yields p.inner (.object ms true) := by
    rw [hinner]
    refine yields_objectText hblanks ?_
    rw [List.forall₂_map_left_iff]
    exact hms.imp fun _ _ hm => hm.2
  have hdocument : Document.ofSymbols (s.toList.map some) = ⟨.object ms true, true⟩ := by
    rw [hs]
    exact ofSymbols_of_yields hspaced hyields
  exact ⟨ms, hkeys, hsuits, hdocument, by rw [Document.ofBytes, bytesOf, decode_utf8, hdocument]⟩

theorem filterMap_fst {ms : List (Option String × Tree)}
    (hkeys : ms.map Prod.fst = members.map Prod.fst) :
    ms.filterMap Prod.fst = members.filterMap Prod.fst := by
  have hids := congrArg (List.filterMap id) hkeys
  rwa [List.filterMap_map, List.filterMap_map] at hids

theorem readsAs_of_carries (h : Carries r members s) (hnamed : none ∉ members.map Prod.fst) :
    ReadsAs r s := by
  obtain ⟨ms, hkeys, hsuits, htext, hbytes⟩ := exists_document h
  obtain ⟨-, -, -, -, -, -, hwords⟩ := h
  have hread : Request.ofTree (.object ms true) = .ok r :=
    ofTree_of_suits (hkeys ▸ hnamed) hsuits (filterMap_fst hkeys ▸ hwords.once)
      (hkeys ▸ hwords.left)
  refine ⟨?_, ?_, ?_⟩
  · rw [htext, Document.decode, hread]
    rfl
  · rw [hbytes, Document.decode, hread]
    rfl
  · rw [hbytes, Document.decodeFront, hread]

theorem isRefused_of_carries (h : Carries r members s) (hnone : none ∈ members.map Prod.fst) :
    IsRefused s := by
  obtain ⟨ms, hkeys, hsuits, htext, hbytes⟩ := exists_document h
  obtain ⟨-, -, -, -, -, -, hwords⟩ := h
  have hread : Request.ofTree (.object ms true) = .error .malformed :=
    ofTree_of_nameless (hkeys ▸ hnone) hsuits (filterMap_fst hkeys ▸ hwords.once)
  refine ⟨?_, ?_, ?_⟩
  · rw [htext, Document.decode, hread]
    rfl
  · rw [hbytes, Document.decode, hread]
    rfl
  · rw [hbytes, Document.decodeFront, hread]

/-- A request without a temperature is read from the text that it is written as, and from every
other text that says the same, if all keys in it spell texts. If one does not, the text is
refused. -/
theorem read_in_any_words (r : Request) (hr : r.temperature = none) :
    ReadsAs r r.toValue.render ∧ ∀ members s, Carries r members s →
      (none ∉ members.map Prod.fst → ReadsAs r s) ∧
        (none ∈ members.map Prod.fst → IsRefused s) :=
  ⟨readsAs_of_carries (carries_render hr) (by simp [written]),
    fun _ _ h => ⟨readsAs_of_carries h, isRefused_of_carries h⟩⟩

/-- A text whose first character is written by its code point. -/
theorem spells_unit {c : Char} {ds more : List Char} (h : IsUnit ds c.toNat)
    (hs : s.toList = c :: more)
    (hcs : cs = '"' :: ('\\' :: 'u' :: ds ++ more.flatMap escaped) ++ ['"']) : Spells s cs := by
  refine ⟨('\\' :: 'u' :: ds) :: more.map escaped, ?_, ?_⟩
  · rw [hs]
    exact .cons (.unit h)
      (List.forall₂_map_right_iff.mpr (List.forall₂_same.mpr fun c _ => writes_escaped c))
  · rw [hcs, List.flatten_cons, List.flatMap_def]

/-- Fields in another order, most of them left out, with blanks, escapes and a value that nobody
asked for. -/
theorem read_in_other_words :
    let r : Request := { question := some "Why?", playAudio := false }
    r.temperature = none ∧ ReadsAs r r.toValue.render ∧
      ReadsAs r
        " \x7b\"playAudio\": false,\n\"x\":[-2.5E3], \"\\u0071uestion\" :\"\\u0057hy?\"\x7d" := by
  intro r
  have hblank : AreBlank [' '] ∧ AreBlank ['\n'] := by simp [AreBlank]
  have hnumber : IsNumber "-2.5E3".toList :=
    ⟨['-'], ['2'], ['.', '5'], ['E', '3'], by simp, by simp [IsWhole, AreDigits],
      .inr ⟨['5'], by simp [AreDigits], rfl⟩, .inr ⟨'E', [], ['3'], by simp, by simp,
        by simp [AreDigits], rfl⟩, rfl⟩
  have hitems : IsValue (arrayText [] [⟨[], "-2.5E3".toList, []⟩]) :=
    .array areBlank_nil (by simp [Padded.IsSpaced, areBlank_nil]) (by simpa using .number hnumber)
  let members : List (Option String × Keyed) :=
    [(some "playAudio", ⟨⟨[], quoted "playAudio", []⟩, ⟨[' '], "false".toList, []⟩⟩),
      (some "x", ⟨⟨['\n'], quoted "x", []⟩, ⟨[], arrayText [] [⟨[], "-2.5E3".toList, []⟩], []⟩⟩),
      (some "question", ⟨⟨[' '], "\"\\u0071uestion\"".toList, [' ']⟩,
        ⟨[], "\"\\u0057hy?\"".toList, []⟩⟩)]
  have hwords : Words r members := by
    refine ⟨?_, ?_, by decide, ?_, ?_, ?_⟩
    · simp [members, Keyed.IsSpaced, Padded.IsSpaced, areBlank_nil, hblank]
    · have hunit : IsUnit "0071".toList 'q'.toNat := ⟨rfl, by decide⟩
      simp only [members, List.forall_mem_cons]
      exact ⟨spells_quoted _, spells_quoted _, spells_unit hunit rfl (by decide), by simp⟩
    · have hunit : IsUnit "0057".toList 'W'.toNat := ⟨rfl, by decide⟩
      have hquestion : WritesText? (some "Why?") "\"\\u0057hy?\"".toList :=
        spells_unit hunit rfl (by decide)
      have hplayAudio : WritesTruth false "false".toList := rfl
      intro k e hmem
      cases k <;> simp [members, Field.name] at hmem
      · exact hmem ▸ hquestion
      · exact hmem ▸ hplayAudio
    · intro k hk
      cases k <;> first | rfl | exact absurd hk (by decide)
    · simp only [members, List.forall_mem_cons]
      exact ⟨fun h => absurd rfl (h .playAudio), fun _ => hitems,
        fun h => absurd rfl (h .question), by simp⟩
  exact ⟨rfl, (read_in_any_words r rfl).1, ((read_in_any_words r rfl).2 members _
    ⟨[], ⟨[' '], _, []⟩, by decide, ⟨hblank.1, areBlank_nil⟩, areBlank_nil, rfl, hwords⟩).1
    (by decide)⟩

/-- An object of JSON that says what a request says is refused for a key that nobody asked for, half
of a pair. -/
theorem refused_for_a_key :
    let r : Request := { question := some "Why?" }
    let s := "\x7b\"question\":\"Why?\",\"\\ud800\":1\x7d"
    r.temperature = none ∧ IsValue s.toList ∧ (∃ members, Carries r members s) ∧ IsRefused s ∧
      ¬ ReadsAs r s := by
  intro r s
  have hunit : IsUnit "d800".toList 0xD800 := ⟨rfl, by decide⟩
  have hhalf : Names none "\"\\ud800\"".toList :=
    names_half hunit (by decide)
  have hnumber : IsNumber ['1'] :=
    ⟨[], ['1'], [], [], by simp, by simp [IsWhole, AreDigits], .inl rfl, .inl rfl, rfl⟩
  let members : List (Option String × Keyed) :=
    [(some "question", ⟨⟨[], quoted "question", []⟩, ⟨[], quoted "Why?", []⟩⟩),
      (none, ⟨⟨[], "\"\\ud800\"".toList, []⟩, ⟨[], ['1'], []⟩⟩)]
  have hwords : Words r members := by
    refine ⟨?_, ?_, by decide, ?_, ?_, ?_⟩
    · simp [members, Keyed.IsSpaced, Padded.IsSpaced, areBlank_nil]
    · simp only [members, List.forall_mem_cons]
      exact ⟨spells_quoted _, hhalf, by simp⟩
    · have hquestion : WritesText? (some "Why?") (quoted "Why?") := spells_quoted _
      intro k e hmem
      cases k <;> simp [members, Field.name] at hmem
      exact hmem ▸ hquestion
    · intro k hk
      cases k <;> first | rfl | exact absurd hk (by decide)
    · simp only [members, List.forall_mem_cons]
      exact ⟨fun h => absurd rfl (h .question), fun _ => .number hnumber, by simp⟩
  have hobject : s.toList = objectText [] (members.map Prod.snd) := by decide
  have hcarries : Carries r members s :=
    ⟨[], ⟨[], s.toList, []⟩, by simp [Padded.chars], ⟨areBlank_nil, areBlank_nil⟩, areBlank_nil,
      hobject, hwords⟩
  have hrefused : IsRefused s := isRefused_of_carries hcarries (by decide)
  refine ⟨rfl, hobject ▸ isValue_of_words hwords areBlank_nil, ⟨members, hcarries⟩, hrefused, ?_⟩
  intro hreads
  cases hrefused.text.symm.trans hreads.text

end Tutor.Ask
