import Mathlib.Data.List.Forall2
import Tutor.Proofs.Json.Written
import Tutor.Proofs.Text.Cut
import Tutor.Proofs.Text.Letter

/-!
# Texts that are JSON

Which texts are JSON is told here by the grammar, apart from any reader. Blanks may stand around
every value, a character of a literal may be written in several ways, and a number may have a
fraction and a power of ten. A unit that is half of a pair may stand alone in a literal; then it
spells no text.

* `Writes`, `Spells`, `IsLiteral` – the ways to write characters, texts and literals of any kind.
* `IsNumber`, `IsValue` – numbers, and values of any kind.
* `Keyed`, `objectText` – objects, member by member.
* `writes_escaped`, `spells_quoted` – what is written by default is one of the ways.
* `exists_literalOf_spells`, `exists_read?` – how literals that spell a text, and numbers, are read.
-/

namespace Tutor.Json

open Tutor.Text

/-! ### The grammar -/

/-- Characters that stand around values for nothing. -/
def AreBlank (cs : List Char) : Prop := ∀ c ∈ cs, c ∈ [' ', '\n', '\t', '\r']

/-- Four hexadecimal digits, in either case, that spell a number. -/
def IsUnit (ds : List Char) (n : Nat) : Prop := ds.length = 4 ∧ numeral? 16 ds = some n

/-- The short escapes: what stands behind the backslash, and the character that is meant. -/
def shortEscapes : List (Char × Char) :=
  [('"', '"'), ('\\', '\\'), ('/', '/'), ('b', '\x08'), ('f', '\x0c'), ('n', '\n'), ('r', '\r'),
    ('t', '\t')]

/-- The ways to write a character inside a literal. -/
inductive Writes : Char → List Char → Prop
  /-- As itself, if it is no quote, no backslash and no control character. -/
  | itself {c : Char} : c ≠ '"' → c ≠ '\\' → 0x20 ≤ c.toNat → Writes c [c]
  /-- By its short escape. -/
  | short {e c : Char} : (e, c) ∈ shortEscapes → Writes c ['\\', e]
  /-- By its code point. -/
  | unit {c : Char} {ds : List Char} : IsUnit ds c.toNat → Writes c ('\\' :: 'u' :: ds)
  /-- By two units, if its code point has more than four digits. -/
  | pair {c : Char} {high low : List Char} : 0x10000 ≤ c.toNat →
      IsUnit high (0xD800 + (c.toNat - 0x10000) / 0x400) →
      IsUnit low (0xDC00 + (c.toNat - 0x10000) % 0x400) →
      Writes c ('\\' :: 'u' :: high ++ '\\' :: 'u' :: low)

/-- What a literal is made of: written characters, and units that need not be characters. -/
inductive IsPart : List Char → Prop
  | char {c : Char} {cs : List Char} : Writes c cs → IsPart cs
  | unit {ds : List Char} {n : Nat} : IsUnit ds n → IsPart ('\\' :: 'u' :: ds)

/-- A string literal, whether it spells a text or not. -/
def IsLiteral (cs : List Char) : Prop :=
  ∃ parts : List (List Char), (∀ part ∈ parts, IsPart part) ∧ cs = '"' :: parts.flatten ++ ['"']

/-- A string literal that spells a text. -/
def Spells (s : String) (cs : List Char) : Prop :=
  ∃ parts, List.Forall₂ Writes s.toList parts ∧ cs = '"' :: parts.flatten ++ ['"']

/-- One decimal digit or more. -/
def AreDigits (cs : List Char) : Prop := cs ≠ [] ∧ ∀ c ∈ cs, c.isDigit = true

/-- The digits in front of a point. A zero at the front is the only one. -/
def IsWhole (cs : List Char) : Prop := AreDigits cs ∧ (cs.head? = some '0' → cs = ['0'])

/-- A point with digits behind it, or nothing. -/
def IsFraction (cs : List Char) : Prop := cs = [] ∨ ∃ ds, AreDigits ds ∧ cs = '.' :: ds

/-- A power of ten, with a sign or none, or nothing. -/
def IsPower (cs : List Char) : Prop :=
  cs = [] ∨ ∃ e sign ds, e ∈ ['e', 'E'] ∧ sign ∈ [[], ['+'], ['-']] ∧ AreDigits ds ∧
    cs = e :: sign ++ ds

/-- A number literal. -/
def IsNumber (cs : List Char) : Prop :=
  ∃ sign whole fraction power, sign ∈ [[], ['-']] ∧ IsWhole whole ∧ IsFraction fraction ∧
    IsPower power ∧ cs = sign ++ whole ++ fraction ++ power

/-- Something as it is written, with what stands around it. -/
structure Padded where
  /-- What stands in front of it. -/
  before : List Char
  /-- The thing itself. -/
  inner : List Char
  /-- What stands behind it. -/
  behind : List Char

/-- The whole of it. -/
def Padded.chars (p : Padded) : List Char := p.before ++ p.inner ++ p.behind

/-- Only blanks stand around it. -/
def Padded.IsSpaced (p : Padded) : Prop := AreBlank p.before ∧ AreBlank p.behind

/-- A member of an object as it is written. -/
structure Keyed where
  /-- The key, with its quotes. -/
  key : Padded
  /-- The value. -/
  value : Padded

/-- The whole of it. -/
def Keyed.chars (e : Keyed) : List Char := e.key.chars ++ ':' :: e.value.chars

/-- Only blanks stand around key and value. -/
def Keyed.IsSpaced (e : Keyed) : Prop := e.key.IsSpaced ∧ e.value.IsSpaced

/-- Parts with commas between them; or what stands there if there are none. -/
def listed (blanks : List Char) (parts : List (List Char)) : List Char :=
  if parts = [] then blanks else joinWith [','] parts

/-- The text of an array. -/
def arrayText (blanks : List Char) (items : List Padded) : List Char :=
  '[' :: listed blanks (items.map Padded.chars) ++ [']']

/-- The text of an object. -/
def objectText (blanks : List Char) (entries : List Keyed) : List Char :=
  '\x7b' :: listed blanks (entries.map Keyed.chars) ++ ['\x7d']

/-- A value. -/
inductive IsValue : List Char → Prop
  | word {cs : List Char} : cs ∈ ["null".toList, "true".toList, "false".toList] → IsValue cs
  | number {cs : List Char} : IsNumber cs → IsValue cs
  | literal {cs : List Char} : IsLiteral cs → IsValue cs
  | array {blanks : List Char} {items : List Padded} : AreBlank blanks →
      (∀ p ∈ items, p.IsSpaced) → (∀ p ∈ items, IsValue p.inner) →
      IsValue (arrayText blanks items)
  | object {blanks : List Char} {entries : List Keyed} : AreBlank blanks →
      (∀ e ∈ entries, e.IsSpaced) → (∀ e ∈ entries, IsLiteral e.key.inner) →
      (∀ e ∈ entries, IsValue e.value.inner) → IsValue (objectText blanks entries)

variable {c : Char} {cs ds : List Char} {n : Nat} {s : String} {rest : List Symbol}

/-! ### Parts with commas -/

theorem exists_listed_cons (blanks first : List Char) (parts : List (List Char)) :
    ∃ more, listed blanks (first :: parts) = first ++ more := by
  rw [listed, if_neg (List.cons_ne_nil _ _)]
  cases parts with
  | nil => exact ⟨[], by rw [joinWith_singleton, List.append_nil]⟩
  | cons next parts => exact ⟨_, joinWith_cons_cons _ _ _ _⟩

theorem listed_singleton (blanks part : List Char) : listed blanks [part] = part := by
  rw [listed, if_neg (List.cons_ne_nil _ _), joinWith_singleton]

theorem listed_cons_cons (blanks first next : List Char) (parts : List (List Char)) :
    listed blanks (first :: next :: parts) = first ++ ',' :: listed blanks (next :: parts) := by
  rw [listed, if_neg (List.cons_ne_nil _ _), joinWith_cons_cons, listed,
    if_neg (List.cons_ne_nil _ _)]
  rfl

/-! ### What is written by default -/

theorem areBlank_nil : AreBlank [] := fun _ h => absurd h List.not_mem_nil

theorem writes_escaped (c : Char) : Writes c (escaped c) := by
  rw [escaped.eq_def]
  split
  · exact .short (by decide)
  · exact .short (by decide)
  · exact .short (by decide)
  · exact .short (by decide)
  · exact .short (by decide)
  · exact .short (by decide)
  · exact .short (by decide)
  next hquote hslash _ _ _ _ _ =>
    split
    next hcontrol => exact .unit ⟨rfl, unitOf?_control hcontrol⟩
    next hcontrol => exact .itself hquote hslash (Nat.not_lt.mp hcontrol)

theorem spells_quoted (s : String) : Spells s (quoted s) := by
  refine ⟨s.toList.map escaped, ?_, ?_⟩
  · exact List.forall₂_map_right_iff.mpr (List.forall₂_same.mpr fun c _ => writes_escaped c)
  · rw [quoted, List.flatMap_def]

/-! ### Reading literals -/

/-- Characters inside a literal are read as pieces, whatever follows them. -/
def ReadsPieces (cs : List Char) (ps : List Piece) : Prop :=
  ∀ rest, Piece.read? (cs.map some ++ rest) = (Piece.read? rest).map fun r => (ps ++ r.1, r.2)

theorem ReadsPieces.append {ps qs : List Piece} (h : ReadsPieces cs ps) (h' : ReadsPieces ds qs) :
    ReadsPieces (cs ++ ds) (ps ++ qs) := by
  intro rest
  rw [List.map_append, List.append_assoc, h, h', Option.map_map]
  simp only [Function.comp_def, List.append_assoc]

theorem readsPieces_unit (h : IsUnit ds n) : ReadsPieces ('\\' :: 'u' :: ds) [.unit n] := by
  obtain ⟨hlength, hn⟩ := h
  intro rest
  match ds, hlength with
  | [a, b, c, d], _ =>
    have hunit : Piece.unitOf? (some a) (some b) (some c) (some d) = some n := hn
    show Piece.read? (some '\\' :: some 'u' :: some a :: some b :: some c :: some d :: rest) = _
    rw [Piece.read?, hunit]
    cases Piece.read? rest <;> rfl

theorem readsPieces_short {e : Char} (h : (e, c) ∈ shortEscapes) :
    ReadsPieces ['\\', e] [.char c] := by
  have hescape : Piece.ofEscape? e = some c ∧ e ≠ 'u' := by
    simp only [shortEscapes, List.mem_cons, List.not_mem_nil, or_false, Prod.mk.injEq] at h
    rcases h with ⟨rfl, rfl⟩ | ⟨rfl, rfl⟩ | ⟨rfl, rfl⟩ | ⟨rfl, rfl⟩ | ⟨rfl, rfl⟩ | ⟨rfl, rfl⟩ |
      ⟨rfl, rfl⟩ | ⟨rfl, rfl⟩ <;> decide
  intro rest
  exact read?_escape hescape.1 hescape.2

/-- The two units of a pair give back the character. -/
theorem pairUp?_eq (h : 0x10000 ≤ c.toNat) :
    Piece.pairUp? (0xD800 + (c.toNat - 0x10000) / 0x400) (0xDC00 + (c.toNat - 0x10000) % 0x400) =
      some c := by
  have hlast := (toNat_valid c).1
  rw [Piece.pairUp?, if_pos (by omega)]
  have hback : 0x10000 + (0xD800 + (c.toNat - 0x10000) / 0x400 - 0xD800) * 0x400 +
      (0xDC00 + (c.toNat - 0x10000) % 0x400 - 0xDC00) = c.toNat := by omega
  rw [hback, Char.ofNat_toNat]

/-- A written character is read as pieces that spell it, whatever is spelled behind it. -/
theorem Writes.exists_pieces (h : Writes c cs) : ∃ ps, ReadsPieces cs ps ∧
    ∀ more, Piece.spell? (ps ++ more) = (Piece.spell? more).map (c :: ·) := by
  cases h with
  | itself hquote hslash hcontrol =>
    refine ⟨[.char c], fun rest => read?_itself hquote hslash hcontrol rest, fun more => ?_⟩
    rw [List.singleton_append, Piece.spell?]
  | short hescape =>
    refine ⟨[.char c], readsPieces_short hescape, fun more => ?_⟩
    rw [List.singleton_append, Piece.spell?]
  | unit hunit =>
    refine ⟨[.unit c.toNat], readsPieces_unit hunit, fun more => ?_⟩
    have hspell := spell?_unit (toNat_valid c).2 more
    rwa [Char.ofNat_toNat] at hspell
  | pair hlarge hhigh hlow =>
    refine ⟨_, (readsPieces_unit hhigh).append (readsPieces_unit hlow), fun more => ?_⟩
    have hlast := (toNat_valid c).1
    show Piece.spell? (.unit _ :: .unit _ :: more) = _
    rw [Piece.spell?, if_neg (by omega), pairUp?_eq hlarge]
    rfl

theorem exists_spells_flatten {parts : List (List Char)} (h : List.Forall₂ Writes cs parts) :
    ∃ ps, ReadsPieces parts.flatten ps ∧ Piece.spell? ps = some cs := by
  induction h with
  | nil =>
    refine ⟨[], fun rest => ?_, by rw [Piece.spell?]⟩
    cases hrest : Piece.read? rest <;> simp [hrest]
  | cons hc _ ih =>
    obtain ⟨ps, hps, hspell⟩ := hc.exists_pieces
    obtain ⟨qs, hqs, hspells⟩ := ih
    refine ⟨ps ++ qs, hps.append hqs, ?_⟩
    rw [hspell, hspells]
    rfl

/-- A literal and the pieces that it is read as. -/
def LiteralOf (cs : List Char) (ps : List Piece) : Prop :=
  ∃ body, cs = '"' :: body ∧ ∀ rest, Piece.read? (body.map some ++ rest) = some (ps, rest)

theorem literalOf_of_readsPieces {ps : List Piece} (h : ReadsPieces cs ps) :
    LiteralOf ('"' :: cs ++ ['"']) ps := by
  refine ⟨cs ++ ['"'], rfl, fun rest => ?_⟩
  have hclose : Piece.read? (some '"' :: rest) = some ([], rest) := by rw [Piece.read?]
  rw [List.map_append, List.append_assoc, h]
  show (Piece.read? (some '"' :: rest)).map _ = _
  rw [hclose, Option.map_some, List.append_nil]

theorem exists_literalOf_spells (h : Spells s cs) :
    ∃ ps, LiteralOf cs ps ∧ Piece.spell? ps = some s.toList := by
  obtain ⟨parts, hparts, rfl⟩ := h
  obtain ⟨ps, hps, hspell⟩ := exists_spells_flatten hparts
  exact ⟨ps, literalOf_of_readsPieces hps, hspell⟩

/-! ### Reading numbers -/

/-- What follows does not begin with a character of some kind. -/
def Without (p : Char → Bool) (rest : List Symbol) : Prop :=
  ∀ c more, rest = some c :: more → p c = false

/-- The characters that can go on with a number. -/
def goesOn (c : Char) : Bool := c.isDigit || c == '.' || c == 'e' || c == 'E'

/-- What follows does not go on with a number. -/
def Ends (rest : List Symbol) : Prop := Without goesOn rest

theorem Without.cons {p : Char → Bool} (h : p c = false) : Without p (some c :: rest) := by
  intro d more heq
  obtain rfl := Option.some.inj (List.cons.inj heq).1
  exact h

theorem Without.mono {p q : Char → Bool} (h : Without p rest) (hpq : ∀ c, q c = true → p c = true) :
    Without q rest := by
  intro c more heq
  cases hq : q c with
  | false => rfl
  | true => exact absurd (hpq c hq) (by rw [h c more heq]; decide)

theorem Ends.withoutDigit (h : Ends rest) : Without Char.isDigit rest :=
  h.mono fun c hc => by simp [goesOn, hc]

theorem isDigit_iff : c.isDigit = true ↔ '0' ≤ c ∧ c ≤ '9' := by
  rw [Char.isDigit, Bool.and_eq_true, decide_eq_true_eq, decide_eq_true_eq]
  rfl

namespace Numeral

/-- What decimal digits stand for. -/
def values (ds : List Char) : List Nat := ds.map fun c => c.toNat - '0'.toNat

/-- Digits are read to their end. -/
theorem digits_append (h : ∀ c ∈ ds, c.isDigit = true) (hends : Without Char.isDigit rest) :
    digits (ds.map some ++ rest) = (values ds, rest) := by
  induction ds with
  | nil =>
    cases rest with
    | nil => rfl
    | cons x more =>
      cases x with
      | none => rfl
      | some c =>
        have hc : digit? c = none := by
          rw [digit?, if_neg]
          rw [← isDigit_iff, hends c more rfl]
          decide
        simp [digits, hc, values]
  | cons c ds ih =>
    have hc : digit? c = some (c.toNat - '0'.toNat) :=
      if_pos (isDigit_iff.mp (h c List.mem_cons_self))
    simp only [List.map_cons, List.cons_append, digits, hc,
      ih fun d hd => h d (List.mem_cons_of_mem _ hd), values]

theorem exists_exponentDigits? (h : AreDigits ds) (negative : Bool) :
    ∃ e, ∀ rest, Ends rest → exponentDigits? negative (ds.map some ++ rest) = some (e, rest) := by
  refine ⟨some (if negative then -(spelled (values ds) : Int) else spelled (values ds)),
    fun rest hends => ?_⟩
  have hne : ¬ (values ds).isEmpty = true := by simpa [values] using h.1
  simp only [exponentDigits?, digits_append h.2 hends.withoutDigit, if_neg hne]

/-- What does not go on with a number is no power of ten. -/
theorem exponentOf?_of_ends (hends : Ends rest) : exponentOf? rest = some (none, rest) := by
  have hnone : ∀ c more, rest = some c :: more → c ≠ 'e' ∧ c ≠ 'E' := by
    intro c more heq
    have hc := hends c more heq
    simp only [goesOn, Bool.or_eq_false_iff, beq_eq_false_iff_ne] at hc
    exact ⟨hc.1.2, hc.2⟩
  rw [exponentOf?.eq_def]
  split <;> first | rfl | exact absurd rfl (hnone _ _ rfl).1 | exact absurd rfl (hnone _ _ rfl).2

/-- A power of ten is read to its end. -/
theorem exists_exponentOf? (h : IsPower cs) :
    ∃ e, ∀ rest, Ends rest → exponentOf? (cs.map some ++ rest) = some (e, rest) := by
  rcases h with rfl | ⟨e, sign, ds, he, hsign, hds, rfl⟩
  · exact ⟨none, fun rest hends => exponentOf?_of_ends hends⟩
  · obtain ⟨d, more, rfl⟩ := List.exists_cons_of_ne_nil hds.1
    have hd : d ≠ '+' ∧ d ≠ '-' := by
      have hdigit := hds.2 d List.mem_cons_self
      constructor <;> rintro rfl <;> exact absurd hdigit (by decide)
    obtain ⟨n, hpositive⟩ := exists_exponentDigits? hds false
    obtain ⟨m, hnegative⟩ := exists_exponentDigits? hds true
    simp only [List.mem_cons, List.not_mem_nil, or_false] at he hsign
    rcases hsign with rfl | rfl | rfl
    · refine ⟨n, fun rest hends => ?_⟩
      rcases he with rfl | rfl <;> simpa [exponentOf?, hd.1, hd.2] using hpositive rest hends
    · refine ⟨n, fun rest hends => ?_⟩
      rcases he with rfl | rfl <;> exact hpositive rest hends
    · refine ⟨m, fun rest hends => ?_⟩
      rcases he with rfl | rfl <;> exact hnegative rest hends

/-- A fraction is read to its end. -/
theorem exists_fractionOf? (h : IsFraction cs) :
    ∃ ds, ∀ rest, Without (fun c => c.isDigit || c == '.') rest →
      fractionOf? (cs.map some ++ rest) = some (ds, rest) := by
  rcases h with rfl | ⟨ds, hds, rfl⟩
  · refine ⟨[], fun rest hrest => ?_⟩
    rw [List.map_nil, List.nil_append, fractionOf?.eq_def]
    split
    next more => exact absurd (hrest '.' more rfl) (by decide)
    next => rfl
  · refine ⟨values ds, fun rest hrest => ?_⟩
    have hread := digits_append hds.2 (hrest.mono fun c hc => by simp [hc])
    have hne : ¬ (values ds).isEmpty = true := by simpa [values] using hds.1
    simp [fractionOf?, hread, hne]

theorem unsigned?_of_digits {negative : Bool} {text : List Symbol} {whole : List Nat}
    (h : digits text = (whole, rest)) (hne : whole ≠ []) (hzero : ∀ d ds, whole ≠ 0 :: d :: ds) :
    unsigned? negative text = (fractionOf? rest).bind fun f => (exponentOf? f.2).bind fun e =>
      some (⟨negative, whole, f.1, e.1.getD 0, e.1.isSome⟩, e.2) := by
  rw [unsigned?, h]
  dsimp only
  split
  · exact absurd rfl hne
  · exact absurd rfl (hzero _ _)
  · rfl

/-- A zero in front is the only digit. -/
theorem values_of_isWhole (h : IsWhole cs) (d : Nat) (ds : List Nat) :
    values cs ≠ 0 :: d :: ds := by
  intro heq
  obtain ⟨c, more, rfl⟩ := List.exists_cons_of_ne_nil h.1.1
  have hlow := (isDigit_iff.mp (h.1.2 c List.mem_cons_self)).1
  have hc : c.toNat - '0'.toNat = 0 := (List.cons.inj heq).1
  have hmore := (List.cons.inj heq).2
  have hzero : c = '0' := by
    have hle : '0'.toNat ≤ c.toNat := hlow
    have hnat : c.toNat = '0'.toNat := by omega
    exact Char.toNat_inj.mp hnat
  have honly := h.2 (by rw [hzero]; rfl)
  rw [(List.cons.inj honly).2] at hmore
  cases hmore

theorem exists_unsigned? {whole fraction power : List Char} (hwhole : IsWhole whole)
    (hfraction : IsFraction fraction) (hpower : IsPower power) (negative : Bool) :
    ∃ n, ∀ rest, Ends rest →
      unsigned? negative ((whole ++ fraction ++ power).map some ++ rest) = some (n, rest) := by
  obtain ⟨e, he⟩ := exists_exponentOf? hpower
  obtain ⟨f, hf⟩ := exists_fractionOf? hfraction
  refine ⟨⟨negative, values whole, f, e.getD 0, e.isSome⟩, fun rest hends => ?_⟩
  -- Neither a digit nor a point stands in front of the power, no digit in front of the fraction.
  have hbehind : Without (fun c => c.isDigit || c == '.') (power.map some ++ rest) := by
    rcases hpower with rfl | ⟨letter, sign, ds, hletter, -, -, rfl⟩
    · exact hends.mono fun c hc => by simp only [goesOn, hc, Bool.true_or]
    · simp only [List.mem_cons, List.not_mem_nil, or_false] at hletter
      rcases hletter with rfl | rfl <;> exact .cons (by decide)
  have hfollows : Without Char.isDigit (fraction.map some ++ (power.map some ++ rest)) := by
    rcases hfraction with rfl | ⟨ds, -, rfl⟩
    · exact hbehind.mono fun c hc => by simp [hc]
    · exact .cons (by decide)
  have hread := digits_append hwhole.1.2 hfollows
  have htext : (whole ++ fraction ++ power).map some ++ rest =
      whole.map some ++ (fraction.map some ++ (power.map some ++ rest)) := by simp
  rw [htext, unsigned?_of_digits hread (by simpa [values] using hwhole.1.1)
    (values_of_isWhole hwhole), hf _ hbehind, Option.bind_some, he _ hends, Option.bind_some]

/-- A number is read to its end. -/
theorem exists_read? (h : IsNumber cs) :
    ∃ n, ∀ rest, Ends rest → read? (cs.map some ++ rest) = some (n, rest) := by
  obtain ⟨sign, whole, fraction, power, hsign, hwhole, hfraction, hpower, rfl⟩ := h
  simp only [List.mem_cons, List.not_mem_nil, or_false] at hsign
  rcases hsign with rfl | rfl
  · obtain ⟨n, hn⟩ := exists_unsigned? hwhole hfraction hpower false
    refine ⟨n, fun rest hends => ?_⟩
    rw [List.nil_append, read?.eq_def]
    split
    next more heq =>
      -- A digit stands in front.
      obtain ⟨d, ds, rfl⟩ := List.exists_cons_of_ne_nil hwhole.1.1
      obtain rfl : d = '-' := Option.some.inj (List.cons.inj heq).1
      exact absurd (hwhole.1.2 '-' List.mem_cons_self) (by decide)
    next => exact hn rest hends
  · obtain ⟨n, hn⟩ := exists_unsigned? hwhole hfraction hpower true
    exact ⟨n, fun rest hends => by simpa [read?] using hn rest hends⟩

end Numeral

end Tutor.Json
