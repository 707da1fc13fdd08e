import Tutor.Proofs.Url.Parse
import Tutor.Server.Message

/-!
# Finding the query of a URL

Whoever is given a URL as text, and cuts it at the first hash and the first question mark, finds its
query. So pairs that are appended to a URL that was read arrive, behind the pairs that it brings.

* `splitTarget_render` – the query is found.
* `pairs_appendPairs`, `pairsOf_render` – appended pairs are found in it.
-/

namespace Tutor.Url

open Tutor.Text

variable {cs : List Char} {u : Url}

/-! ### Finding the query -/

theorem plain_credentialChars (h : Tidy u) : Plain u.credentialChars := by
  rw [credentialChars]
  split
  · exact plain_nil
  · refine (h.username.append ?_).append (Plain.cons rfl plain_nil)
    split
    · exact plain_nil
    · exact Plain.cons rfl h.password

theorem plain_authorityChars (h : Tidy u) : Plain u.authorityChars := by
  rw [authorityChars]
  split
  next => exact plain_nil
  next host hhost =>
    have hserver := (plain_credentialChars h).append (h.host host hhost)
    refine Plain.cons rfl (Plain.cons rfl (hserver.append ?_))
    split
    · exact Plain.cons rfl (plain_digitsIn (by decide) (by decide))
    · exact plain_nil

theorem plain_pathChars (h : Tidy u) : Plain u.pathChars := by
  have hpath := h.path
  rw [pathChars]
  split
  next text htext =>
    rw [htext] at hpath
    exact hpath
  next names hnames =>
    rw [hnames] at hpath
    have htext : Plain (names.flatMap fun n => '/' :: n.toList) := by
      intro c hc
      obtain ⟨n, hn, hc⟩ := List.mem_flatMap.mp hc
      exact Plain.cons rfl (hpath n hn) c hc
    dsimp only
    split
    · exact Plain.cons rfl (Plain.cons rfl htext)
    · exact htext

/-- What stands in front of the query. -/
theorem plain_front (h : Tidy u) :
    Plain (u.scheme.toList ++ ':' :: u.authorityChars ++ u.pathChars) :=
  (h.scheme.append (Plain.cons rfl (plain_authorityChars h))).append (plain_pathChars h)

theorem hash_not_mem_of_plain (h : Plain cs) : '#' ∉ cs := by
  intro hc
  exact absurd (h _ hc) (by decide)

theorem cutAt?_of_plain (h : Plain cs) : cutAt? (· == '?') cs = none := by
  induction cs with
  | nil => rfl
  | cons c cs ih =>
    have hc := h c List.mem_cons_self
    rw [endsPath, Bool.or_eq_false_iff] at hc
    rw [cutAt?, hc.1, ih fun d hd => h d (List.mem_cons_of_mem _ hd)]
    rfl

/-- The first hash stands in front of the fragment, if none stands before it. -/
theorem takeWhile_marked (h : '#' ∉ cs) (f : Option String) :
    (cs ++ marked '#' f).takeWhile (· != '#') = cs := by
  have hcs : ∀ c ∈ cs, (c != '#') = true := by
    intro c hc
    rw [bne_iff_ne]
    rintro rfl
    exact h hc
  rw [List.takeWhile_append_of_pos hcs]
  cases f with
  | none => exact List.append_nil cs
  | some f => exact List.append_nil cs

/-- Whoever cuts a URL at its first hash and its first question mark finds its query. -/
theorem splitTarget_render (h : Tidy u) : (Server.splitTarget u.render).2 = u.query := by
  have hfront := plain_front h
  rw [Server.splitTarget, render, String.toList_ofList, charsBeforeFragment]
  generalize u.scheme.toList ++ ':' :: u.authorityChars ++ u.pathChars = front at hfront ⊢
  -- In front of the fragment there is no hash, and in front of the query no question mark.
  cases hquery : u.query with
  | none =>
    have hhash : '#' ∉ front ++ marked '?' none := by
      rw [marked, List.append_nil]
      exact hash_not_mem_of_plain hfront
    rw [takeWhile_marked hhash, marked, List.append_nil]
    rw [cutAt?_of_plain hfront]
  | some q =>
    have hhash : '#' ∉ front ++ marked '?' (some q) := by
      rw [marked, List.mem_append, List.mem_cons]
      rintro (hc | hc | hc)
      · exact hash_not_mem_of_plain hfront hc
      · revert hc
        decide
      · exact h.query q hquery hc
    have hcut : cutAt? (· == '?') (front ++ '?' :: q.toList) = some (front, q.toList) := by
      refine cutAt?_append rfl (fun c hc => ?_) _
      have hplain := hfront c hc
      rw [endsPath, Bool.or_eq_false_iff] at hplain
      exact hplain.1
    rw [takeWhile_marked hhash, marked]
    rw [hcut]
    dsimp only
    rw [String.ofList_toList]

/-! ### Appended pairs -/

/-- Appended pairs leave the parts in place. -/
theorem Tidy.appendPairs (h : Tidy u) (pairs : List (String × String)) :
    Tidy (u.appendPairs pairs) := by
  have hadded : '#' ∉ joinWith ['&'] (pairs.map formPair) := by
    intro hc
    rcases mem_joinWith hc with hc | ⟨part, hpart, hc⟩
    · revert hc
      decide
    · obtain ⟨pair, -, rfl⟩ := List.mem_map.mp hpart
      exact (ne_of_mem_formPair hc).2 rfl
  rw [Url.appendPairs]
  split
  next q hq =>
    split
    · exact h.withQuery (by rwa [String.toList_ofList]) _
    · refine h.withQuery ?_ _
      rw [String.toList_ofList, List.mem_append, List.mem_cons]
      rintro (hc | hc | hc)
      · exact h.query q hq hc
      · revert hc
        decide
      · exact hadded hc
  next => exact h.withQuery (by rwa [String.toList_ofList]) _

/-- The pairs that are appended come behind those that were there. -/
theorem pairs_appendPairs (u : Url) (pairs : List (String × String)) :
    (u.appendPairs pairs).pairs = u.pairs ++ pairs := by
  have hadded := formPairs_joinWith pairs
  have hpairs : ∀ q, Url.pairs { u with query := some (String.ofList q) } = formPairs q := by
    intro q
    rw [Url.pairs]
    dsimp only
    rw [String.toList_ofList]
  rw [Url.appendPairs]
  cases hquery : u.query with
  | none =>
    dsimp only
    rw [hpairs, hadded, Url.pairs, hquery]
    rfl
  | some q =>
    dsimp only
    split
    next hempty =>
      -- Behind an empty query no separator is needed, and it has no pair.
      have hnone : formPairs q.toList = [] := by
        rw [String.isEmpty_iff.mp hempty]
        rfl
      rw [hpairs, hadded, Url.pairs, hquery]
      dsimp only
      rw [hnone, List.nil_append]
    next =>
      rw [hpairs, formPairs_append, hadded, Url.pairs, hquery]

/-- The pairs that whoever is given an address finds in its query. -/
def pairsOf (address : String) : List (String × String) :=
  formPairs ((Server.splitTarget address).2.getD "").toList

/-- With pairs appended to a URL that was read, they are found behind its own. -/
theorem pairsOf_render (h : Tidy u) (pairs : List (String × String)) :
    pairsOf (u.appendPairs pairs).render = u.pairs ++ pairs := by
  rw [pairsOf, splitTarget_render (h.appendPairs pairs), ← pairs_appendPairs, Url.pairs]
  cases (u.appendPairs pairs).query with
  | none => rfl
  | some q => rfl

end Tutor.Url
