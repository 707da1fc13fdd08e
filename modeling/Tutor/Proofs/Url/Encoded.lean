import Tutor.Proofs.Text.Letter
import Tutor.Proofs.Url.Form
import Tutor.Url.Parse

/-!
# What is escaped once

A part of a URL in which everything is escaped that has to be stays as it is when it is escaped
again. And escaping changes nothing about the bytes that a part stands for, so a segment of a path
that was no dot is none in its escaped form either.

* `encode_of_kept`, `kept_encode` – escaped parts.
* `decodeBytes_encode` – what they stand for.
* `isDot_encode`, `isDotDot_encode` – dots in disguise.
-/

namespace Tutor.Url

open Tutor.Text

variable {c : Char} {cs rest : List Char} {keep : Char → Bool}

/-! ### Escaped parts -/

/-- Everything that has to be escaped is escaped. -/
def Kept (keep : Char → Bool) (cs : List Char) : Prop :=
  ∀ c ∈ cs, isGraphic c = true ∧ keep c = true

theorem kept_nil : Kept keep [] := fun _ hc => absurd hc List.not_mem_nil

theorem Kept.append {bs : List Char} (hcs : Kept keep cs) (hbs : Kept keep bs) :
    Kept keep (cs ++ bs) := fun c hc => (List.mem_append.mp hc).elim (hcs c) (hbs c)

theorem encode_cons (c : Char) (cs : List Char) :
    encode keep (c :: cs) = encodeChar keep c ++ encode keep cs := List.flatMap_cons

theorem encodeChar_of_kept (hgraphic : isGraphic c = true) (hkeep : keep c = true) :
    encodeChar keep c = [c] := by
  rw [encodeChar, hgraphic, hkeep]
  rfl

/-- What is escaped stays as it is. -/
theorem encode_of_kept (h : Kept keep cs) : encode keep cs = cs := by
  induction cs with
  | nil => rfl
  | cons c cs ih =>
    obtain ⟨hgraphic, hkeep⟩ := h c List.mem_cons_self
    rw [encode_cons, encodeChar_of_kept hgraphic hkeep, ih fun d hd => h d (.tail c hd)]
    rfl

/-- Whether escapes are kept themselves. All parts do that. -/
structure KeepsEscapes (keep : Char → Bool) : Prop where
  percent : keep '%' = true
  alphanum : ∀ c, c.isAlphanum = true → keep c = true

/-- It is enough to look at ASCII. -/
theorem keepsEscapes_of_forall (hpercent : keep '%' = true)
    (hascii : ∀ n < 128, (Char.ofNat n).isAlphanum = true → keep (Char.ofNat n) = true) :
    KeepsEscapes keep where
  percent := hpercent
  alphanum _ hc := of_ascii (P := fun c => c.isAlphanum = true → keep c = true) hascii
    (toNat_lt_of_isAlphanum hc) hc

theorem keepsEscapes_inPath : KeepsEscapes inPath :=
  keepsEscapes_of_forall (by decide) (by decide)

theorem keepsEscapes_inFragment : KeepsEscapes inFragment :=
  keepsEscapes_of_forall (by decide) (by decide)

theorem keepsEscapes_inCredentials : KeepsEscapes inCredentials :=
  keepsEscapes_of_forall (by decide) (by decide)

theorem keepsEscapes_inQuery (special : Bool) : KeepsEscapes (inQuery special) := by
  cases special
  · exact keepsEscapes_of_forall (by decide) (by decide)
  · exact keepsEscapes_of_forall (by decide) (by decide)

theorem isGraphic_of_isAlphanum (h : c.isAlphanum = true) : isGraphic c = true :=
  of_ascii (P := fun c => c.isAlphanum = true → isGraphic c = true) (by decide)
    (toNat_lt_of_isAlphanum h) h

/-- What comes out of escaping is escaped. -/
theorem kept_encode (hkeep : KeepsEscapes keep) (cs : List Char) : Kept keep (encode keep cs) := by
  intro c hc
  obtain ⟨d, -, hc⟩ := List.mem_flatMap.mp hc
  rw [encodeChar] at hc
  split at hc
  next hkept =>
    obtain rfl := List.mem_singleton.mp hc
    rwa [Bool.and_eq_true] at hkept
  next =>
    obtain ⟨b, -, hb⟩ := List.mem_flatMap.mp hc
    rcases of_mem_escapedByte hb with rfl | hb
    · exact ⟨by decide, hkeep.percent⟩
    · exact ⟨isGraphic_of_isAlphanum hb, hkeep.alphanum c hb⟩

/-! ### What an escaped part stands for -/

/-- Whether a character is a hexadecimal digit. -/
def isHexDigit (c : Char) : Bool := (digitIn? 16 c).isSome

/-- Whether two hexadecimal digits come first, so that a percent sign in front makes an escape. -/
def beginsWithDigits : List Char → Bool
  | a :: rest => isHexDigit a && rest.head?.any isHexDigit
  | [] => false

theorem decodeBytes_percent (h : beginsWithDigits cs = false) :
    decodeBytes ('%' :: cs) = String.utf8EncodeChar '%' ++ decodeBytes cs := by
  match cs with
  | [] => rfl
  | [a] =>
    rw [decodeBytes.eq_def]
    rfl
  | a :: b :: rest =>
    rw [decodeBytes]
    split
    next high low ha hb =>
      simp [beginsWithDigits, isHexDigit, ha, hb] at h
    next => rfl

theorem decodeBytes_escape {high low : Nat} {a b : Char} (ha : digitIn? 16 a = some high)
    (hb : digitIn? 16 b = some low) (rest : List Char) :
    decodeBytes ('%' :: a :: b :: rest) = UInt8.ofNat (high * 16 + low) :: decodeBytes rest := by
  rw [decodeBytes, ha, hb]

theorem isAlphanum_of_isHexDigit (h : isHexDigit c = true) : c.isAlphanum = true := by
  obtain ⟨n, hn⟩ := Option.isSome_iff_exists.mp h
  exact of_ascii (P := fun c => isHexDigit c = true → c.isAlphanum = true) (by decide)
    (toNat_lt_of_digitIn? hn) h

/-- The escape of a character stands for its bytes. -/
theorem decodeBytes_escapedBytes (bytes : List UInt8) (rest : List Char) :
    decodeBytes (bytes.flatMap escapedByte ++ rest) = bytes ++ decodeBytes rest := by
  induction bytes with
  | nil => rfl
  | cons b bytes ih =>
    have hb : b.toNat < 256 := b.toNat_lt
    rw [List.flatMap_cons, List.append_assoc, escapedByte, List.cons_append, List.cons_append,
      List.cons_append, List.nil_append, decodeBytes_escaped (by omega) (by omega), ih,
      List.cons_append, Nat.div_add_mod', UInt8.ofNat_toNat]

/-- A character is kept, or it is escaped, and then it was no digit. -/
theorem encodeChar_cases (hkeep : KeepsEscapes keep) (c : Char) :
    encodeChar keep c = [c] ∨
      encodeChar keep c = (String.utf8EncodeChar c).flatMap escapedByte ∧ c ≠ '%' ∧
        isHexDigit c = false := by
  rw [encodeChar]
  split
  next => exact .inl rfl
  next hkept =>
    refine .inr ⟨rfl, ?_, ?_⟩
    · rintro rfl
      exact hkept (by rw [hkeep.percent]; rfl)
    · rw [← Bool.not_eq_true]
      intro hdigit
      have halphanum := isAlphanum_of_isHexDigit hdigit
      exact hkept (by rw [isGraphic_of_isAlphanum halphanum, hkeep.alphanum c halphanum]; rfl)

theorem exists_escapes_cons (c : Char) :
    ∃ more, (String.utf8EncodeChar c).flatMap escapedByte = '%' :: more := by
  have hne : String.utf8EncodeChar c ≠ [] := by
    rw [← List.length_pos_iff, String.length_utf8EncodeChar]
    exact c.utf8Size_pos
  obtain ⟨b, bytes, hbytes⟩ := List.exists_cons_of_ne_nil hne
  rw [hbytes, List.flatMap_cons, escapedByte]
  exact ⟨_, rfl⟩

theorem head?_encode (hkeep : KeepsEscapes keep) (cs : List Char) :
    (encode keep cs).head?.any isHexDigit = cs.head?.any isHexDigit := by
  cases cs with
  | nil => rfl
  | cons c cs =>
    rw [encode_cons]
    rcases encodeChar_cases hkeep c with hc | ⟨hc, -, hdigit⟩
    · rw [hc]
      rfl
    · obtain ⟨more, hmore⟩ := exists_escapes_cons c
      have hpercent : isHexDigit '%' = false := by decide
      rw [hc, hmore, List.head?_cons, Option.any_some, hdigit]
      exact hpercent

/-- Escaping brings no digits to the front, and takes none away. -/
theorem beginsWithDigits_encode (hkeep : KeepsEscapes keep) (cs : List Char) :
    beginsWithDigits (encode keep cs) = beginsWithDigits cs := by
  cases cs with
  | nil => rfl
  | cons c cs =>
    rw [encode_cons]
    rcases encodeChar_cases hkeep c with hc | ⟨hc, -, hdigit⟩
    · rw [hc, List.singleton_append, beginsWithDigits, beginsWithDigits, head?_encode hkeep]
    · obtain ⟨more, hmore⟩ := exists_escapes_cons c
      have hpercent : isHexDigit '%' = false := by decide
      rw [hc, hmore, List.cons_append, beginsWithDigits, beginsWithDigits, hpercent, hdigit]
      rfl

theorem encode_of_isHexDigit (hkeep : KeepsEscapes keep) (h : isHexDigit c = true)
    (cs : List Char) : encode keep (c :: cs) = c :: encode keep cs := by
  rw [encode_cons]
  rcases encodeChar_cases hkeep c with hc | ⟨-, -, hdigit⟩
  · rw [hc]
    rfl
  · rw [hdigit] at h
    cases h

theorem encode_percent (hkeep : KeepsEscapes keep) (cs : List Char) :
    encode keep ('%' :: cs) = '%' :: encode keep cs := by
  rw [encode_cons, encodeChar_of_kept (by decide) hkeep.percent]
  rfl

/-- Escaping changes nothing about what a part stands for. By the recursion of reading: an escape
that is there is kept, and no other comes about. -/
theorem decodeBytes_encode (hkeep : KeepsEscapes keep) (cs : List Char) :
    decodeBytes (encode keep cs) = decodeBytes cs := by
  fun_induction decodeBytes cs with
  | case1 a b rest low high hb ha ih =>
    have hadigit : isHexDigit a = true := by rw [isHexDigit, ha]; rfl
    have hbdigit : isHexDigit b = true := by rw [isHexDigit, hb]; rfl
    rw [encode_percent hkeep, encode_of_isHexDigit hkeep hadigit,
      encode_of_isHexDigit hkeep hbdigit, decodeBytes_escape ha hb, ih]
  | case2 a b rest hnone ih =>
    have hdigits : beginsWithDigits (a :: b :: rest) = false := by
      rw [← Bool.not_eq_true, beginsWithDigits, Bool.and_eq_true]
      rintro ⟨ha, hb⟩
      obtain ⟨high, hhigh⟩ := Option.isSome_iff_exists.mp ha
      obtain ⟨low, hlow⟩ := Option.isSome_iff_exists.mp hb
      exact hnone high low hhigh hlow
    rw [encode_percent hkeep, decodeBytes_percent, ih]
    rwa [beginsWithDigits_encode hkeep]
  | case3 c rest hnoEscape ih =>
    by_cases hpercent : c = '%'
    · subst hpercent
      have hdigits : beginsWithDigits rest = false := by
        match rest with
        | [] => rfl
        | [a] => exact Bool.and_false _
        | a :: b :: more => exact (hnoEscape a b more rfl rfl).elim
      rw [encode_percent hkeep, decodeBytes_percent, ih]
      rwa [beginsWithDigits_encode hkeep]
    · rw [encode_cons]
      rcases encodeChar_cases hkeep c with hc | ⟨hc, -, -⟩
      · rw [hc, List.singleton_append, decodeBytes_cons hpercent, ih]
      · rw [hc, decodeBytes_escapedBytes, ih]
  | case4 => rfl

/-! ### Dots in disguise -/

/-- What stands for a single dot: the dot, or its escape. -/
def dots : List (List Char) := [['.'], ['%', '2', 'e'], ['%', '2', 'E']]

theorem mem_dots_iff : cs ∈ dots ↔ cs = ['.'] ∨ sameLetters cs ['%', '2', 'e'] = true := by
  constructor
  · intro h
    simp only [dots, List.mem_cons, List.not_mem_nil, or_false] at h
    rcases h with rfl | rfl | rfl
    · exact .inl rfl
    · exact .inr rfl
    · exact .inr rfl
  · rintro (rfl | h)
    · exact List.mem_cons_self
    · rw [sameLetters, beq_iff_eq] at h
      obtain ⟨a, rest, rfl, ha, h⟩ := List.map_eq_cons_iff.mp h
      obtain ⟨b, rest, rfl, hb, h⟩ := List.map_eq_cons_iff.mp h
      obtain ⟨c, rest, rfl, hc, h⟩ := List.map_eq_cons_iff.mp h
      obtain rfl := List.map_eq_nil_iff.mp h
      obtain rfl : a = '%' := of_toLower (P := (· = '%')) rfl (by decide) ha
      obtain rfl : b = '2' := of_toLower (P := (· = '2')) rfl (by decide) hb
      have he : c = 'e' ∨ c = 'E' :=
        of_toLower (P := fun c => c = 'e' ∨ c = 'E') (.inl rfl) (by decide) hc
      rcases he with rfl | rfl <;> decide

theorem isDot_iff : isDot cs = true ↔ cs ∈ dots := by
  rw [isDot, Bool.or_eq_true, beq_iff_eq, mem_dots_iff]

theorem isDotDot_iff : isDotDot cs = true ↔ ∃ a ∈ dots, ∃ b ∈ dots, cs = a ++ b := by
  constructor
  · intro h
    have hdot : ['.'] ∈ dots := List.mem_cons_self
    have hsingle : ∀ {a : List Char}, a.map Char.toLower = ['.'] → a ∈ dots := by
      intro a ha
      obtain ⟨c, rest, rfl, hc, ha⟩ := List.map_eq_cons_iff.mp ha
      obtain rfl := List.map_eq_nil_iff.mp ha
      rwa [of_toLower (P := (· = '.')) rfl (by decide) hc]
    have hescape : ∀ {a : List Char}, a.map Char.toLower = ['%', '2', 'e'] → a ∈ dots :=
      fun ha => mem_dots_iff.mpr (.inr (beq_iff_eq.mpr ha))
    have hparts : ∀ a b : List Char, cs.map Char.toLower = a ++ b →
        ∃ a' b', cs = a' ++ b' ∧ a'.map Char.toLower = a ∧ b'.map Char.toLower = b :=
      fun a b => List.map_eq_append_iff.mp
    simp only [isDotDot, sameLetters, Bool.or_eq_true, beq_iff_eq] at h
    rcases h with ((rfl | h) | h) | h
    · exact ⟨['.'], hdot, ['.'], hdot, rfl⟩
    · obtain ⟨a, b, rfl, ha, hb⟩ := hparts ['.'] ['%', '2', 'e'] h
      exact ⟨a, hsingle ha, b, hescape hb, rfl⟩
    · obtain ⟨a, b, rfl, ha, hb⟩ := hparts ['%', '2', 'e'] ['.'] h
      exact ⟨a, hescape ha, b, hsingle hb, rfl⟩
    · obtain ⟨a, b, rfl, ha, hb⟩ := hparts ['%', '2', 'e'] ['%', '2', 'e'] h
      exact ⟨a, hescape ha, b, hescape hb, rfl⟩
  · rintro ⟨a, ha, b, hb, rfl⟩
    simp only [dots, List.mem_cons, List.not_mem_nil, or_false] at ha hb
    rcases ha with rfl | rfl | rfl <;> rcases hb with rfl | rfl | rfl <;> decide

/-- What a part begins with: an escape, or the bytes of its first character. -/
theorem decodeBytes_cases (cs : List Char) : cs = [] ∨
    (∃ a b rest high low, cs = '%' :: a :: b :: rest ∧ digitIn? 16 a = some high ∧
      digitIn? 16 b = some low ∧
      decodeBytes cs = UInt8.ofNat (high * 16 + low) :: decodeBytes rest) ∨
    ∃ c rest, cs = c :: rest ∧ decodeBytes cs = String.utf8EncodeChar c ++ decodeBytes rest := by
  fun_cases decodeBytes cs with
  | case1 a b rest high low hb ha => exact .inr (.inl ⟨a, b, rest, high, low, rfl, ha, hb, rfl⟩)
  | case2 a b rest hnone => exact .inr (.inr ⟨'%', a :: b :: rest, rfl, rfl⟩)
  | case3 c rest hnoEscape => exact .inr (.inr ⟨c, rest, rfl, rfl⟩)
  | case4 => exact .inl rfl

theorem decodeBytes_eq_nil_iff : decodeBytes cs = [] ↔ cs = [] := by
  constructor
  · intro h
    rcases decodeBytes_cases cs with
      rfl | ⟨a, b, rest, high, low, -, -, -, hescape⟩ | ⟨c, rest, -, hchar⟩
    · rfl
    · rw [hescape] at h
      cases h
    · have hlength := congrArg List.length (hchar.symm.trans h)
      rw [List.length_append, String.length_utf8EncodeChar, List.length_nil] at hlength
      have := c.utf8Size_pos
      omega
  · rintro rfl
    rfl

/-- A part stands for a dot and more if a dot in some form comes first. -/
theorem decodeBytes_eq_dot_iff {bytes : List UInt8} : decodeBytes cs = 0x2E :: bytes ↔
    ∃ dot ∈ dots, ∃ rest, cs = dot ++ rest ∧ decodeBytes rest = bytes := by
  constructor
  · intro h
    rcases decodeBytes_cases cs with
      rfl | ⟨a, b, rest, high, low, rfl, ha, hb, hescape⟩ | ⟨c, rest, rfl, hchar⟩
    · cases h
    · rw [hescape] at h
      obtain ⟨hbyte, hrest⟩ := List.cons.inj h
      have hhigh := lt_of_digitIn? ha
      have hlow := lt_of_digitIn? hb
      have hvalue : high * 16 + low = 0x2E := by
        have hmod := congrArg UInt8.toNat hbyte
        rwa [toNat_ofNat_of_lt (by omega)] at hmod
      obtain rfl : high = 2 := by omega
      obtain rfl : low = 14 := by omega
      obtain rfl : a = '2' := of_ascii (P := fun c => digitIn? 16 c = some 2 → c = '2') (by decide)
        (toNat_lt_of_digitIn? ha) ha
      have he : b = 'e' ∨ b = 'E' :=
        of_ascii (P := fun c => digitIn? 16 c = some 14 → c = 'e' ∨ c = 'E') (by decide)
          (toNat_lt_of_digitIn? hb) hb
      rcases he with rfl | rfl
      · exact ⟨['%', '2', 'e'], by decide, rest, rfl, hrest⟩
      · exact ⟨['%', '2', 'E'], by decide, rest, rfl, hrest⟩
    · have hbytes : String.utf8EncodeChar c ++ decodeBytes rest =
          String.utf8EncodeChar '.' ++ bytes := hchar.symm.trans h
      have hdecode := congrArg decode hbytes
      rw [decode_cons, decode_cons] at hdecode
      obtain rfl := Option.some.inj (List.cons.inj hdecode).1
      exact ⟨['.'], List.mem_cons_self, rest, rfl, List.append_cancel_left hbytes⟩
  · rintro ⟨dot, hdot, rest, rfl, rfl⟩
    simp only [dots, List.mem_cons, List.not_mem_nil, or_false] at hdot
    rcases hdot with rfl | rfl | rfl
    · exact decodeBytes_cons (by decide) rest
    · exact @decodeBytes_escape 2 14 '2' 'e' rfl rfl rest
    · exact @decodeBytes_escape 2 14 '2' 'E' rfl rfl rest

theorem isDot_iff_decodeBytes : isDot cs = true ↔ decodeBytes cs = [0x2E] := by
  rw [isDot_iff, decodeBytes_eq_dot_iff]
  simp only [decodeBytes_eq_nil_iff]
  constructor
  · exact fun h => ⟨cs, h, [], (List.append_nil cs).symm, rfl⟩
  · rintro ⟨dot, hdot, rest, rfl, rfl⟩
    rwa [List.append_nil]

theorem isDotDot_iff_decodeBytes : isDotDot cs = true ↔ decodeBytes cs = [0x2E, 0x2E] := by
  rw [isDotDot_iff, decodeBytes_eq_dot_iff]
  constructor
  · rintro ⟨a, ha, b, hb, rfl⟩
    exact ⟨a, ha, b, rfl, isDot_iff_decodeBytes.mp (isDot_iff.mpr hb)⟩
  · rintro ⟨a, ha, b, rfl, hb⟩
    exact ⟨a, ha, b, isDot_iff.mp (isDot_iff_decodeBytes.mpr hb), rfl⟩

/-- Escaping makes no dots, and hides none. -/
theorem isDot_encode (hkeep : KeepsEscapes keep) (cs : List Char) :
    isDot (encode keep cs) = isDot cs := by
  rw [Bool.eq_iff_iff, isDot_iff_decodeBytes, isDot_iff_decodeBytes, decodeBytes_encode hkeep]

theorem isDotDot_encode (hkeep : KeepsEscapes keep) (cs : List Char) :
    isDotDot (encode keep cs) = isDotDot cs := by
  rw [Bool.eq_iff_iff, isDotDot_iff_decodeBytes, isDotDot_iff_decodeBytes,
    decodeBytes_encode hkeep]

end Tutor.Url
