import Tutor.Proofs.Idna.Domain
import Tutor.Proofs.Url.Form
import Tutor.Url.Parse

/-!
# What hosts are written in

Neither a question mark nor a hash stands in a host that was read. A domain name has no forbidden
character in it, an address is written in figures and a few marks, and where a scheme takes any text
for a host, the text is refused if it holds one of the two.

* `Plain` – texts in which no query and no fragment begins.
* `mem_encode`, `plain_encode` – escaped texts.
* `plain_chars_of_hostOf` – the hosts of all schemes.
-/

namespace Tutor.Url

open Tutor.Text

/-- No character ends the path. -/
def Plain (cs : List Char) : Prop := ∀ c ∈ cs, endsPath c = false

/-! ### Characters -/

variable {c : Char} {cs as bs : List Char}

theorem Plain.append (has : Plain as) (hbs : Plain bs) : Plain (as ++ bs) := by
  intro c hc
  exact (List.mem_append.mp hc).elim (has c) (hbs c)

theorem Plain.cons (hc : endsPath c = false) (hcs : Plain cs) : Plain (c :: cs) :=
  List.forall_mem_cons.mpr ⟨hc, hcs⟩

theorem plain_nil : Plain [] := fun _ hc => absurd hc List.not_mem_nil

/-- A class of characters without the two marks. -/
theorem endsPath_of_class {p : Char → Bool} (hquery : p '?' = false) (hfragment : p '#' = false)
    (h : p c = true) : endsPath c = false := by
  rw [endsPath, Bool.or_eq_false_iff, beq_eq_false_iff_ne, beq_eq_false_iff_ne]
  constructor
  · rintro rfl
    rw [hquery] at h
    cases h
  · rintro rfl
    rw [hfragment] at h
    cases h

/-- An escaped text is written in what is kept of it and in escapes. -/
theorem mem_encode {keep : Char → Bool} (h : c ∈ encode keep cs) :
    (keep c = true ∧ c ∈ cs) ∨ c = '%' ∨ c.isAlphanum = true := by
  obtain ⟨d, hd, hc⟩ := List.mem_flatMap.mp h
  rw [encodeChar] at hc
  split at hc
  next hkept =>
    obtain rfl := List.mem_singleton.mp hc
    rw [Bool.and_eq_true] at hkept
    exact .inl ⟨hkept.2, hd⟩
  next =>
    obtain ⟨b, -, hb⟩ := List.mem_flatMap.mp hc
    exact .inr (of_mem_escapedByte hb)

theorem plain_encode {keep : Char → Bool}
    (h : ∀ c ∈ cs, keep c = true → endsPath c = false) : Plain (encode keep cs) := by
  intro c hc
  rcases mem_encode hc with ⟨hkept, hc⟩ | rfl | hc
  · exact h c hc hkept
  · rfl
  · exact endsPath_of_class (by decide) (by decide) hc

/-! ### Hosts -/

theorem plain_digitsIn {base n : Nat} (hbase : 2 ≤ base) (hsmall : base ≤ 36) :
    Plain (digitsIn base n) :=
  fun _ hc => of_mem_digitsIn (P := fun c => endsPath c = false) hbase hsmall (by decide) hc

theorem plain_joinWith {sep : List Char} {parts : List (List Char)} (hsep : Plain sep)
    (hparts : ∀ part ∈ parts, Plain part) : Plain (joinWith sep parts) := by
  intro c hc
  rcases mem_joinWith hc with hc | ⟨part, hpart, hc⟩
  · exact hsep c hc
  · exact hparts part hpart c hc

theorem plain_ipv4Text (n : Nat) : Plain (Host.ipv4Text n) := by
  apply plain_joinWith (Plain.cons rfl plain_nil)
  intro part hpart
  obtain ⟨m, -, rfl⟩ := List.mem_map.mp hpart
  exact plain_digitsIn (by decide) (by decide)

theorem plain_groupsText (pieces : List Nat) : Plain (Host.groupsText pieces) := by
  apply plain_joinWith (Plain.cons rfl plain_nil)
  intro part hpart
  obtain ⟨m, -, rfl⟩ := List.mem_map.mp hpart
  exact plain_digitsIn (by decide) (by decide)

theorem plain_ipv6Text (pieces : List Nat) : Plain (Host.ipv6Text pieces) := by
  simp only [Host.ipv6Text]
  split
  · exact plain_groupsText _
  · refine ((plain_groupsText _).append ?_).append (plain_groupsText _)
    exact Plain.cons rfl (Plain.cons rfl plain_nil)

theorem plain_chars_of_ofBracketed {h : Host} (hread : Host.ofBracketed cs = .ok h) :
    Plain h.chars := by
  rw [Host.ofBracketed] at hread
  split at hread
  next =>
    split at hread
    next pieces hpieces =>
      obtain rfl := Except.ok.inj hread
      exact Plain.cons rfl ((plain_ipv6Text pieces).append (Plain.cons rfl plain_nil))
    next => cases hread
  next => cases hread

/-- A host that a scheme resolves is an address, or a domain name in ASCII. -/
theorem plain_chars_of_ofChars {h : Host} (hread : Host.ofChars cs = .ok h) : Plain h.chars := by
  rw [Host.ofChars.eq_def] at hread
  split at hread
  next => exact plain_chars_of_ofBracketed hread
  next =>
    split at hread
    next text =>
      split at hread
      next ascii hascii =>
        split at hread
        next => cases hread
        next =>
          split at hread
          next =>
            split at hread
            next n hn =>
              obtain rfl := Except.ok.inj hread
              exact plain_ipv4Text n
            next => cases hread
          next =>
            obtain rfl := Except.ok.inj hread
            intro c hc
            rw [Host.chars, String.toList_ofList] at hc
            refine endsPath_of_class (p := (!Idna.isForbidden ·)) (by decide) (by decide) ?_
            rw [Idna.isForbidden_of_mem_toAscii? hascii hc]
            rfl
      next => cases hread
    next => cases hread

theorem plain_chars_of_opaqueOfChars {h : Host} (hread : Host.opaqueOfChars cs = .ok h) :
    Plain h.chars := by
  rw [Host.opaqueOfChars.eq_def] at hread
  split at hread
  next =>
    obtain rfl := Except.ok.inj hread
    exact plain_nil
  next => exact plain_chars_of_ofBracketed hread
  next =>
    split at hread
    next => cases hread
    next hallowed =>
      obtain rfl := Except.ok.inj hread
      rw [Host.chars, String.toList_ofList]
      apply plain_encode
      intro c hc _
      refine endsPath_of_class (p := (!Host.isForbidden ·)) (by decide) (by decide) ?_
      rw [Bool.not_eq_true']
      apply Bool.eq_false_iff.mpr
      intro hforbidden
      exact hallowed (List.any_eq_true.mpr ⟨c, hc, hforbidden⟩)

theorem plain_chars_of_hostOf {k : SchemeKind} {h : Host} (hread : hostOf k cs = .ok h) :
    Plain h.chars := by
  rw [hostOf] at hread
  split at hread
  next =>
    split at hread
    next => cases hread
    next => exact plain_chars_of_ofChars hread
  next => exact plain_chars_of_opaqueOfChars hread

end Tutor.Url
