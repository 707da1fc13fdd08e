import Tutor.Proofs.Json.Grammar

/-!
# Literals that spell a text

A literal is read piece by piece: a character, a short escape or a unit is one piece each. What text
it spells, if any, is what its pieces spell. So a literal spells no text exactly if none is spelled
by its pieces, that is, if half of a pair stands alone among them.

* `Makes`, `exists_makes`, `exists_literalOf` – the pieces that a literal is made of, and read as.
* `exists_writes_of_spell?` – what pieces spell is written by them.
* `Names`, `exists_literalOf_names` – the text of a literal that may spell none, as it is read.
* `names_half` – a literal that spells none.
-/

namespace Tutor.Json

open Tutor.Text

/-- The characters that make a piece. -/
inductive Makes : Piece → List Char → Prop
  | itself {c : Char} : c ≠ '"' → c ≠ '\\' → 0x20 ≤ c.toNat → Makes (.char c) [c]
  | short {e c : Char} : (e, c) ∈ shortEscapes → Makes (.char c) ['\\', e]
  | unit {ds : List Char} {n : Nat} : IsUnit ds n → Makes (.unit n) ('\\' :: 'u' :: ds)

variable {p : Piece} {ps : List Piece} {c : Char} {cs : List Char} {css parts : List (List Char)}
  {n m : Nat}

theorem Makes.readsPieces (h : Makes p cs) : ReadsPieces cs [p] := by
  cases h with
  | itself hquote hslash hcontrol => exact fun rest => read?_itself hquote hslash hcontrol rest
  | short hescape => exact readsPieces_short hescape
  | unit hunit => exact readsPieces_unit hunit

theorem readsPieces_flatten (h : List.Forall₂ Makes ps css) : ReadsPieces css.flatten ps := by
  induction h with
  | nil =>
    intro rest
    cases hrest : Piece.read? rest <;> simp [hrest]
  | cons hfirst _ ih => exact hfirst.readsPieces.append ih

/-! ### Literals in pieces -/

theorem Writes.exists_makes (h : Writes c cs) :
    ∃ ps css, List.Forall₂ Makes ps css ∧ css.flatten = cs := by
  cases h with
  | itself hquote hslash hcontrol =>
    exact ⟨_, _, .cons (.itself hquote hslash hcontrol) .nil, List.flatten_singleton⟩
  | short hescape => exact ⟨_, _, .cons (.short hescape) .nil, List.flatten_singleton⟩
  | unit hunit => exact ⟨_, _, .cons (.unit hunit) .nil, List.flatten_singleton⟩
  | pair _ hhigh hlow =>
    refine ⟨_, _, .cons (.unit hhigh) (.cons (.unit hlow) .nil), ?_⟩
    simp

theorem IsPart.exists_makes (h : IsPart cs) :
    ∃ ps css, List.Forall₂ Makes ps css ∧ css.flatten = cs := by
  cases h with
  | char hc => exact hc.exists_makes
  | unit hunit => exact ⟨_, _, .cons (.unit hunit) .nil, List.flatten_singleton⟩

theorem exists_makes (h : IsLiteral cs) :
    ∃ ps css, List.Forall₂ Makes ps css ∧ cs = '"' :: css.flatten ++ ['"'] := by
  obtain ⟨parts, hparts, rfl⟩ := h
  suffices hflat : ∃ ps css, List.Forall₂ Makes ps css ∧ css.flatten = parts.flatten by
    obtain ⟨ps, css, hmakes, hflat⟩ := hflat
    exact ⟨ps, css, hmakes, by rw [hflat]⟩
  induction parts with
  | nil => exact ⟨[], [], .nil, rfl⟩
  | cons part parts ih =>
    obtain ⟨hpart, hmore⟩ := List.forall_mem_cons.mp hparts
    obtain ⟨ps, css, hmakes, hflat⟩ := hpart.exists_makes
    obtain ⟨qs, dss, hmakes', hflat'⟩ := ih hmore
    refine ⟨ps ++ qs, css ++ dss, List.rel_append hmakes hmakes', ?_⟩
    rw [List.flatten_append, hflat, hflat', List.flatten_cons]

theorem exists_literalOf (h : IsLiteral cs) : ∃ ps, LiteralOf cs ps := by
  obtain ⟨ps, css, hmakes, rfl⟩ := exists_makes h
  exact ⟨ps, literalOf_of_readsPieces (readsPieces_flatten hmakes)⟩

/-! ### What pieces spell -/

/-- A unit is no larger than four digits can spell. -/
theorem IsUnit.lt {ds : List Char} (h : IsUnit ds n) : n < 0x10000 := by
  have hlt := lt_of_numeral? h.2
  rwa [h.1] at hlt

/-- A unit that is not half of a pair writes a character. -/
theorem IsUnit.writes {ds : List Char} (h : IsUnit ds n) (hn : n < 0xD800 ∨ 0xDFFF < n) :
    Writes (Char.ofNat n) ('\\' :: 'u' :: ds) := by
  have hlt := h.lt
  have hback : (Char.ofNat n).toNat = n := toNat_ofNat_of_isValidChar (by
    rcases hn with hn | hn
    · exact .inl hn
    · exact .inr ⟨hn, by omega⟩)
  exact .unit (hback.symm ▸ h)

/-- Two units that form a pair write the character that they stand for. -/
theorem writes_of_pairUp? {high low : List Char} (hhigh : IsUnit high n) (hlow : IsUnit low m)
    (h : Piece.pairUp? n m = some c) :
    Writes c ('\\' :: 'u' :: high ++ '\\' :: 'u' :: low) := by
  rw [Piece.pairUp?] at h
  split at h
  next hpair =>
    obtain rfl := Option.some.inj h
    have hback : (Char.ofNat (0x10000 + (n - 0xD800) * 0x400 + (m - 0xDC00))).toNat =
        0x10000 + (n - 0xD800) * 0x400 + (m - 0xDC00) :=
      toNat_ofNat_of_isValidChar (.inr ⟨by omega, by omega⟩)
    refine .pair ?_ ?_ ?_
    · omega
    · rw [hback]
      convert hhigh using 1
      omega
    · rw [hback]
      convert hlow using 1
      omega
  next => cases h

/-- What pieces spell is written by the characters that make them. By induction along the spelling,
which takes two units at once if they form a pair. -/
theorem exists_writes_of_spell? {text : List Char} (h : List.Forall₂ Makes ps css)
    (hspell : Piece.spell? ps = some text) :
    ∃ parts, List.Forall₂ Writes text parts ∧ parts.flatten = css.flatten := by
  fun_induction Piece.spell? ps generalizing css text with
  | case1 =>
    obtain rfl := Option.some.inj hspell
    cases h
    exact ⟨[], .nil, rfl⟩
  | case2 c ps ih =>
    obtain ⟨more, hmore, rfl⟩ := Option.map_eq_some_iff.mp hspell
    cases h with
    | @cons _ cs _ css hfirst hrest =>
      obtain ⟨parts, hparts, hflat⟩ := ih hrest hmore
      have hwrites : Writes c cs := by
        cases hfirst with
        | itself hquote hslash hcontrol => exact .itself hquote hslash hcontrol
        | short hescape => exact .short hescape
      exact ⟨cs :: parts, .cons hwrites hparts, by rw [List.flatten_cons, List.flatten_cons, hflat]⟩
  | case3 ps => cases hspell
  | case4 n m ps hn ih =>
    obtain ⟨more, hmore, rfl⟩ := Option.map_eq_some_iff.mp hspell
    cases h with
    | @cons _ cs _ css hfirst hrest =>
      obtain ⟨parts, hparts, hflat⟩ := ih hrest hmore
      cases hfirst with
      | unit hunit =>
        exact ⟨_ :: parts, .cons (hunit.writes hn) hparts, by
          rw [List.flatten_cons, List.flatten_cons, hflat]⟩
  | case5 n m ps hn ih =>
    obtain ⟨c, hpair, hmap⟩ := Option.bind_eq_some_iff.mp hspell
    obtain ⟨more, hmore, rfl⟩ := Option.map_eq_some_iff.mp hmap
    cases h with
    | cons hhigh hrest =>
      cases hrest with
      | cons hlow hrest =>
        obtain ⟨parts, hparts, hflat⟩ := ih hrest hmore
        cases hhigh with
        | unit hhigh =>
          cases hlow with
          | unit hlow =>
            refine ⟨_ :: parts, .cons (writes_of_pairUp? hhigh hlow hpair) hparts, ?_⟩
            simp [hflat]
  | case6 n ps hnone hn ih =>
    obtain ⟨more, hmore, rfl⟩ := Option.map_eq_some_iff.mp hspell
    cases h with
    | cons hfirst hrest =>
      obtain ⟨parts, hparts, hflat⟩ := ih hrest hmore
      cases hfirst with
      | unit hunit =>
        exact ⟨_ :: parts, .cons (hunit.writes hn) hparts, by
          rw [List.flatten_cons, List.flatten_cons, hflat]⟩
  | case7 n ps hnone hn => cases hspell

/-! ### Literals that may spell no text -/

/-- The text that a literal spells; or none, if it spells no text. -/
def Names : Option String → List Char → Prop
  | some s, cs => Spells s cs
  | none, cs => IsLiteral cs ∧ ∀ s, ¬ Spells s cs

theorem Spells.isLiteral {s : String} (h : Spells s cs) : IsLiteral cs := by
  obtain ⟨parts, hparts, rfl⟩ := h
  refine ⟨parts, fun part hpart => ?_, rfl⟩
  obtain ⟨i, hi, rfl⟩ := List.getElem_of_mem hpart
  exact .char (hparts.get (hparts.length_eq.symm ▸ hi) hi)

theorem Names.isLiteral {name? : Option String} (h : Names name? cs) : IsLiteral cs := by
  cases name? with
  | some s => exact Spells.isLiteral h
  | none => exact h.1

/-- A literal is read in one way. -/
theorem LiteralOf.unique {qs : List Piece} (hp : LiteralOf cs ps) (hq : LiteralOf cs qs) :
    ps = qs := by
  obtain ⟨body, rfl, hp⟩ := hp
  obtain ⟨body', hbody, hq⟩ := hq
  obtain rfl := (List.cons.inj hbody).2
  exact (Prod.mk.inj (Option.some.inj ((hp []).symm.trans (hq [])))).1

/-- Half of a pair alone is a literal that spells no text. -/
theorem names_half {ds : List Char} (h : IsUnit ds n) (hhalf : 0xD800 ≤ n ∧ n ≤ 0xDFFF) :
    Names none ('"' :: '\\' :: 'u' :: ds ++ ['"']) := by
  have hread : LiteralOf ('"' :: '\\' :: 'u' :: ds ++ ['"']) [.unit n] :=
    literalOf_of_readsPieces (readsPieces_unit h)
  refine ⟨⟨['\\' :: 'u' :: ds], by simpa using .unit h, by simp⟩, fun s hspells => ?_⟩
  obtain ⟨ps, hps, hspell⟩ := exists_literalOf_spells hspells
  obtain rfl := hps.unique hread
  rw [Piece.spell?, if_neg (by omega)] at hspell
  · cases hspell
  · exact fun m more heq => by cases heq

/-- A literal is read as pieces that spell its text, or else as pieces that spell none. -/
theorem exists_literalOf_names {name? : Option String} (h : Names name? cs) :
    ∃ ps, LiteralOf cs ps ∧ (Piece.spell? ps).map String.ofList = name? := by
  cases name? with
  | some s =>
    obtain ⟨ps, hps, hspell⟩ := exists_literalOf_spells h
    exact ⟨ps, hps, by rw [hspell, Option.map_some, String.ofList_toList]⟩
  | none =>
    obtain ⟨hliteral, hnone⟩ := h
    obtain ⟨ps, css, hmakes, rfl⟩ := exists_makes hliteral
    refine ⟨ps, literalOf_of_readsPieces (readsPieces_flatten hmakes), ?_⟩
    rw [Option.map_eq_none_iff, Option.eq_none_iff_forall_ne_some]
    intro text hspell
    obtain ⟨parts, hparts, hflat⟩ := exists_writes_of_spell? hmakes hspell
    refine hnone (String.ofList text) ⟨parts, ?_, by rw [hflat]⟩
    rwa [String.toList_ofList]

end Tutor.Json
