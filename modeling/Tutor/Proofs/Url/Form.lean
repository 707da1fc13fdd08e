import Tutor.Proofs.Text.Cut
import Tutor.Proofs.Text.Utf8
import Tutor.Url.Percent

/-!
# Reading what was written in a form

A form is read as the pairs that were written into it, whatever their texts hold. This has two
halves. A single text is read back byte by byte. And since a written text has neither of the two
separators in it, a form falls apart exactly where its pairs were joined.

* `formBytes_formText` – a text.
* `isFormChar_of_mem_formText` – the characters that a text is written in.
* `formPairs_joinWith`, `formPairs_append` – all pairs, alone and behind other pairs.
-/

namespace Tutor.Url

open Tutor.Text

variable {c : Char} {n : Nat} {cs : List Char}

/-! ### Digits -/

theorem digitIn?_upper (h : n < 16) : digitIn? 16 (digitChar n).toUpper = some n := by
  have hall : ∀ n < 16, digitIn? 16 (digitChar n).toUpper = some n := by decide
  exact hall n h

theorem isAlphanum_upper (h : n < 16) : (digitChar n).toUpper.isAlphanum = true := by
  have hall : ∀ n < 16, (digitChar n).toUpper.isAlphanum = true := by decide
  exact hall n h

/-! ### Bytes -/

theorem toNat_lt_of_isAlphanum (h : c.isAlphanum = true) : c.toNat < 128 := by
  have hclasses : ((decide ('A'.val ≤ c.val ∧ c.val ≤ 'Z'.val) ||
      (decide ('a'.val ≤ c.val) && decide (c.val ≤ 'z'.val))) ||
      (decide ('0'.val ≤ c.val) && decide (c.val ≤ '9'.val))) = true := h
  simp only [Bool.or_eq_true, Bool.and_eq_true, decide_eq_true_eq] at hclasses
  rcases hclasses with (h | h) | h
  · exact Nat.lt_of_le_of_lt (UInt32.le_iff_toNat_le.mp h.2) (by decide)
  · exact Nat.lt_of_le_of_lt (UInt32.le_iff_toNat_le.mp h.2) (by decide)
  · exact Nat.lt_of_le_of_lt (UInt32.le_iff_toNat_le.mp h.2) (by decide)

theorem utf8EncodeChar_ascii (h : c.toNat < 128) :
    String.utf8EncodeChar c = [UInt8.ofNat c.toNat] := by
  have hval : c.val.toNat = c.toNat := rfl
  rw [String.utf8EncodeChar, hval]
  exact if_pos (by omega)

theorem decodeBytes_cons (h : c ≠ '%') (cs : List Char) :
    decodeBytes (c :: cs) = String.utf8EncodeChar c ++ decodeBytes cs := by
  rw [decodeBytes]
  rintro a b rest rfl
  exact absurd rfl h

theorem decodeBytes_of_unescaped (h : '%' ∉ cs) : decodeBytes cs = utf8 cs := by
  induction cs with
  | nil => rfl
  | cons c cs ih =>
    rw [List.mem_cons, not_or] at h
    rw [decodeBytes_cons (Ne.symm h.1), ih h.2]
    rfl

theorem decodeBytes_escaped {high low : Nat} (hhigh : high < 16) (hlow : low < 16)
    (cs : List Char) :
    decodeBytes ('%' :: (digitChar high).toUpper :: (digitChar low).toUpper :: cs) =
      UInt8.ofNat (high * 16 + low) :: decodeBytes cs := by
  rw [decodeBytes, digitIn?_upper hhigh, digitIn?_upper hlow]

/-- What a character of a form is taken for before escapes are read. -/
def unplussed (c : Char) : Char := if c == '+' then ' ' else c

theorem formBytes_eq (cs : List Char) : formBytes cs = decodeBytes (cs.map unplussed) := rfl

theorem unplussed_of_ne (h : c ≠ '+') : unplussed c = c :=
  if_neg (by simpa using h)

theorem unplussed_upper (h : n < 16) : unplussed (digitChar n).toUpper = (digitChar n).toUpper := by
  apply unplussed_of_ne
  have halphanum := isAlphanum_upper h
  intro hplus
  rw [hplus] at halphanum
  revert halphanum
  decide

/-- A character of a form that is neither a plus sign nor a percent sign stands for itself. -/
theorem formBytes_cons_self (hplus : c ≠ '+') (hpercent : c ≠ '%') (cs : List Char) :
    formBytes (c :: cs) = String.utf8EncodeChar c ++ formBytes cs := by
  rw [formBytes_eq, List.map_cons, unplussed_of_ne hplus, decodeBytes_cons hpercent, ← formBytes_eq]

/-- An escaped byte has no plus sign in it, so that it reaches the reader of escapes as it is. -/
theorem formBytes_escaped {high low : Nat} (hhigh : high < 16) (hlow : low < 16)
    (cs : List Char) :
    formBytes ('%' :: (digitChar high).toUpper :: (digitChar low).toUpper :: cs) =
      UInt8.ofNat (high * 16 + low) :: formBytes cs := by
  rw [formBytes_eq, List.map_cons, List.map_cons, List.map_cons, unplussed_upper hhigh,
    unplussed_upper hlow, unplussed_of_ne (by decide), decodeBytes_escaped hhigh hlow,
    ← formBytes_eq]

/-- The characters that a form keeps are no escapes. -/
theorem of_inForm {b : UInt8} (h : inForm b = true) :
    (Char.ofNat b.toNat).toNat < 128 ∧ Char.ofNat b.toNat ≠ '+' ∧ Char.ofNat b.toNat ≠ '%' := by
  rw [inForm] at h
  generalize Char.ofNat b.toNat = c at h
  simp only [Bool.or_eq_true, beq_iff_eq] at h
  rcases h with (((h | rfl) | rfl) | rfl) | rfl
  · refine ⟨toNat_lt_of_isAlphanum h, ?_, ?_⟩
    · rintro rfl
      exact absurd h (by decide)
    · rintro rfl
      exact absurd h (by decide)
  all_goals decide

/-- A byte is read back. -/
theorem formBytes_formByte (b : UInt8) (cs : List Char) :
    formBytes (formByte b ++ cs) = b :: formBytes cs := by
  have hb : b.toNat < 256 := b.toNat_lt
  rw [formByte]
  split
  next hblank =>
    -- A plus sign is taken for a blank, and a blank stands for itself.
    obtain rfl : b = 0x20 := by simpa using hblank
    show decodeBytes (' ' :: _) = _
    rw [decodeBytes_cons (by decide)]
    rfl
  next =>
    split
    next hkept =>
      obtain ⟨hascii, hplus, hpercent⟩ := of_inForm hkept
      have hchar : (Char.ofNat b.toNat).toNat = b.toNat := by
        rw [Char.ofNat, dif_pos (.inl (by omega))]
        rfl
      rw [List.singleton_append, formBytes_cons_self hplus hpercent, utf8EncodeChar_ascii hascii,
        hchar, UInt8.ofNat_toNat]
      rfl
    next =>
      rw [escapedByte, List.cons_append, List.cons_append, List.singleton_append,
        formBytes_escaped (by omega) (by omega), Nat.div_add_mod', UInt8.ofNat_toNat]

/-- A text is read back. -/
theorem formBytes_formText (cs : List Char) : formBytes (formText cs) = utf8 cs := by
  have hbytes : ∀ bs : List UInt8, formBytes (bs.flatMap formByte) = bs := by
    intro bs
    induction bs with
    | nil => rfl
    | cons b bs ih => rw [List.flatMap_cons, formBytes_formByte, ih]
  exact hbytes (utf8 cs)

/-! ### Separators -/

/-- The characters in which a form writes texts. -/
def isFormChar (c : Char) : Bool :=
  c.isAlphanum || c == '*' || c == '-' || c == '.' || c == '_' || c == '+' || c == '%'

/-- An escape is a percent sign with letters and figures. -/
theorem of_mem_escapedByte {b : UInt8} (h : c ∈ escapedByte b) :
    c = '%' ∨ c.isAlphanum = true := by
  have hb : b.toNat < 256 := b.toNat_lt
  rw [escapedByte, List.mem_cons, List.mem_cons, List.mem_singleton] at h
  rcases h with rfl | rfl | rfl
  · exact .inl rfl
  · exact .inr (isAlphanum_upper (by omega))
  · exact .inr (isAlphanum_upper (by omega))

theorem isFormChar_of_mem_formByte {b : UInt8} (h : c ∈ formByte b) : isFormChar c = true := by
  rw [formByte] at h
  split at h
  next =>
    obtain rfl := List.mem_singleton.mp h
    decide
  next =>
    split at h
    next hkept =>
      obtain rfl := List.mem_singleton.mp h
      rw [inForm] at hkept
      rw [isFormChar, hkept]
      rfl
    next =>
      rcases of_mem_escapedByte h with rfl | h
      · decide
      · rw [isFormChar, h]
        rfl

theorem isFormChar_of_mem_formText (h : c ∈ formText cs) : isFormChar c = true := by
  obtain ⟨b, -, hb⟩ := List.mem_flatMap.mp h
  exact isFormChar_of_mem_formByte hb

theorem ne_of_mem_formText {d : Char} (hd : isFormChar d = false) (h : c ∈ formText cs) :
    c ≠ d := by
  rintro rfl
  rw [isFormChar_of_mem_formText h] at hd
  cases hd

theorem ne_of_mem_formPair {p : String × String} (h : c ∈ formPair p) : c ≠ '&' ∧ c ≠ '#' := by
  rw [formPair, List.mem_append, List.mem_cons] at h
  rcases h with h | rfl | h
  · exact ⟨ne_of_mem_formText (by decide) h, ne_of_mem_formText (by decide) h⟩
  · decide
  · exact ⟨ne_of_mem_formText (by decide) h, ne_of_mem_formText (by decide) h⟩

/-! ### Pairs -/

/-- Pairs behind others are read after them. -/
theorem formPairs_append (as bs : List Char) :
    formPairs (as ++ '&' :: bs) = formPairs as ++ formPairs bs := by
  have hsplit : splitWhere (· == '&') (as ++ '&' :: bs) =
      splitWhere (· == '&') as ++ splitWhere (· == '&') bs := splitWhere_append rfl as bs
  rw [formPairs, hsplit, List.filter_append, List.map_append]
  rfl

/-- A pair is read back. -/
theorem formPairs_formPair (pair : String × String) : formPairs (formPair pair) = [pair] := by
  have hwhole : splitWhere (· == '&') (formPair pair) = [formPair pair] :=
    splitWhere_of_none fun c hc => beq_eq_false_iff_ne.mpr (ne_of_mem_formPair hc).1
  have hcut : cutAt? (· == '=') (formPair pair) =
      some (formText pair.1.toList, formText pair.2.toList) := by
    -- The name has no equals sign in it, so the first one stands behind the name.
    refine cutAt?_append rfl (fun c hc => ?_) _
    exact beq_eq_false_iff_ne.mpr (ne_of_mem_formText (by decide) hc)
  have hfilled : (formPair pair).isEmpty = false := by
    rw [List.isEmpty_eq_false_iff, formPair]
    exact List.append_ne_nil_of_right_ne_nil _ (List.cons_ne_nil _ _)
  rw [formPairs, hwhole, List.filter_cons, hfilled]
  simp only [Bool.not_false, if_true, List.filter_nil, List.map_cons, List.map_nil, hcut]
  rw [formBytes_formText, formBytes_formText, lossyText_utf8, lossyText_utf8, String.ofList_toList,
    String.ofList_toList]

/-- The pairs of a form are read back. -/
theorem formPairs_joinWith : ∀ pairs : List (String × String),
    formPairs (joinWith ['&'] (pairs.map formPair)) = pairs
  | [] => rfl
  | [pair] => by
    rw [List.map_singleton, joinWith_singleton, formPairs_formPair]
  | pair :: next :: pairs => by
    rw [List.map_cons, List.map_cons, joinWith_cons_cons, List.singleton_append, ← List.map_cons,
      formPairs_append, formPairs_formPair, formPairs_joinWith (next :: pairs)]
    rfl

end Tutor.Url
