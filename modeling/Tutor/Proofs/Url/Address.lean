import Tutor.Proofs.Text.Cut
import Tutor.Proofs.Text.Letter
import Tutor.Url.Host
import Mathlib.Data.List.TakeWhile

/-!
# Addresses read again

The numeric addresses of hosts are written in one form, whatever the form in which they came, and
they are read back from it. For version 6, the form leaves out the first of the longest runs of
zeros, and a reader can tell how long the run was, because an address has eight pieces.

* `ipv4?_ipv4Text`, `lt_of_ipv4?` – addresses of version 4.
* `longestZeros_spec` – the run of zeros that is left out.
* `ipv6?_ipv6Text`, `arePieces_of_ipv6?` – addresses of version 6.
-/

namespace Tutor.Url.Host

open Tutor.Text

variable {c : Char} {cs rest : List Char} {n : Nat} {ps : List Nat}

/-! ### Version 4 -/

/-- The numbers in front of the last one are bytes, so many bytes make so large a number. -/
theorem foldl_bytes_lt : ∀ (bytes : List Nat) (n : Nat), (∀ b ∈ bytes, b ≤ 255) →
    bytes.foldl (fun n b => n * 256 + b) n < (n + 1) * 256 ^ bytes.length
  | [], n, _ => by simp
  | b :: bytes, n, h => by
    have hb := h b List.mem_cons_self
    have hrest := foldl_bytes_lt bytes (n * 256 + b) fun b hb => h b (List.mem_cons_of_mem _ hb)
    rw [List.foldl_cons, List.length_cons]
    calc bytes.foldl (fun n b => n * 256 + b) (n * 256 + b)
        < (n * 256 + b + 1) * 256 ^ bytes.length := hrest
      _ ≤ (n + 1) * 256 * 256 ^ bytes.length := Nat.mul_le_mul_right _ (by omega)
      _ = (n + 1) * 256 ^ (bytes.length + 1) := by rw [pow_succ, Nat.mul_assoc, Nat.mul_comm 256]

/-- An address of version 4 has 32 bits. -/
theorem lt_of_ipv4? (h : ipv4? cs = some n) : n < 4294967296 := by
  simp only [ipv4?] at h
  split at h
  next => cases h
  next hparts =>
    simp only [Option.bind_eq_bind, Option.bind_eq_some_iff] at h
    obtain ⟨numbers, hnumbers, last, hlast, h⟩ := h
    split at h
    next hfits =>
      obtain rfl := Option.some.inj h
      rw [Bool.and_eq_true, List.all_eq_true, decide_eq_true_eq] at hfits
      obtain ⟨hbytes, hlast⟩ := hfits
      have hfront := foldl_bytes_lt numbers.dropLast 0 fun b hb => of_decide_eq_true (hbytes b hb)
      have hlength : numbers.dropLast.length ≤ 3 := by
        rw [List.length_dropLast, length_of_mapM hnumbers]
        omega
      generalize numbers.dropLast.foldl (fun n b => n * 256 + b) 0 = front at *
      generalize numbers.dropLast.length = k at *
      rw [Nat.zero_add, Nat.one_mul] at hfront
      calc front * Nat.pow 256 (4 - k) + last
          < (front + 1) * 256 ^ (4 - k) := by
            rw [Nat.add_mul, Nat.one_mul]
            exact Nat.add_lt_add_left hlast _
        _ ≤ 256 ^ k * 256 ^ (4 - k) := Nat.mul_le_mul_right _ hfront
        _ = 256 ^ 4 := by rw [← pow_add, Nat.add_sub_cancel' (by omega)]
    next => cases h

theorem numberOf?_byte (h : n < 256) : numberOf? (digitsIn 10 n) = some n := by
  revert n
  decide +kernel

theorem ne_dot_of_mem_digitsIn (h : c ∈ digitsIn 10 n) : (c == '.') = false :=
  of_mem_digitsIn (P := fun c => (c == '.') = false) (by decide) (by decide) (by decide) h

/-- The bytes of an address. -/
def bytesOf (n : Nat) : List Nat := [n / 16777216 % 256, n / 65536 % 256, n / 256 % 256, n % 256]

theorem splitWhere_ipv4Text (n : Nat) :
    splitWhere (· == '.') (ipv4Text n) = (bytesOf n).map (digitsIn 10) := by
  refine splitWhere_joinWith rfl (List.cons_ne_nil _ _) fun part hpart d hd => ?_
  obtain ⟨b, -, rfl⟩ := List.mem_map.mp hpart
  exact ne_dot_of_mem_digitsIn hd

theorem dottedParts_ipv4Text (n : Nat) :
    dottedParts (ipv4Text n) = (bytesOf n).map (digitsIn 10) := by
  rw [dottedParts, splitWhere_ipv4Text]
  have hlast : (((bytesOf n).map (digitsIn 10)).getLast? == some []) = false := by
    simp [bytesOf, digitsIn_ne_nil]
  rw [hlast, Bool.and_false]
  rfl

/-- An address of version 4 is read back. -/
theorem ipv4?_ipv4Text (h : n < 4294967296) : ipv4? (ipv4Text n) = some n := by
  have hnumbers : ((bytesOf n).map (digitsIn 10)).mapM numberOf? = some (bytesOf n) := by
    refine mapM_map_eq_some fun b hb => numberOf?_byte ?_
    simp only [bytesOf, List.mem_cons, List.not_mem_nil, or_false] at hb
    omega
  rw [ipv4?, dottedParts_ipv4Text]
  simp only [List.length_map, hnumbers]
  simp only [bytesOf, List.length_cons, List.length_nil, Option.bind_eq_bind, Option.bind_some,
    List.getLast?_cons_cons, List.getLast?_singleton, List.dropLast_cons_cons,
    List.dropLast_singleton, List.all_cons, List.all_nil, List.foldl_cons, List.foldl_nil]
  have hpow : Nat.pow 256 (4 - (0 + 1 + 1 + 1)) = 256 := rfl
  have hvalue : (((0 * 256 + n / 16777216 % 256) * 256 + n / 65536 % 256) * 256 +
      n / 256 % 256) * 256 + n % 256 = n := by omega
  rw [if_neg (by omega), hpow, if_pos, hvalue]
  simp only [Bool.and_eq_true, decide_eq_true_eq, Bool.and_true]
  omega

/-! ### Version 6 -/

theorem of_mem_groupsText {P : Char → Prop} (hcolon : P ':') (hdigit : ∀ n < 36, P (digitChar n))
    (hc : c ∈ groupsText ps) : P c := by
  rcases mem_joinWith hc with hc | ⟨part, hpart, hc⟩
  · obtain rfl := List.mem_singleton.mp hc
    exact hcolon
  · obtain ⟨p, -, rfl⟩ := List.mem_map.mp hpart
    exact of_mem_digitsIn (by decide) (by decide) hdigit hc

/-- What holds of the colon and of every digit holds of the characters of an address. -/
theorem of_mem_ipv6Text {P : Char → Prop} (hcolon : P ':') (hdigit : ∀ n < 36, P (digitChar n))
    (hc : c ∈ ipv6Text ps) : P c := by
  rw [ipv6Text] at hc
  dsimp only at hc
  split at hc
  · exact of_mem_groupsText hcolon hdigit hc
  · rcases List.mem_append.mp hc with hc | hc
    · rcases List.mem_append.mp hc with hc | hc
      · exact of_mem_groupsText hcolon hdigit hc
      · simp only [List.mem_cons, List.not_mem_nil, or_false, or_self] at hc
        rwa [hc]
    · exact of_mem_groupsText hcolon hdigit hc

/-- What eight pieces of 16 bits are. -/
structure ArePieces (ps : List Nat) : Prop where
  length : ps.length = 8
  small : ∀ p ∈ ps, p < 65536

theorem lt_of_pieceOf? (h : pieceOf? cs = some n) : n < 65536 := by
  rw [pieceOf?] at h
  split at h
  next => cases h
  next hlength =>
    simp only [Bool.or_eq_true, decide_eq_true_eq, not_or, Nat.not_lt] at hlength
    calc n < 16 ^ cs.length := lt_of_numeral? h
      _ ≤ 16 ^ 4 := Nat.pow_le_pow_right (by decide) hlength.2

theorem le_of_plainByte? (h : plainByte? cs = some n) : n ≤ 255 := by
  rw [plainByte?.eq_def] at h
  split at h
  · cases h
  · cases h
  · split at h
    · exact of_decide_eq_true (Option.filter_eq_some_iff.mp h).2
    · cases h

theorem lt_of_piecesOf? {dotted : Bool} (h : piecesOf? dotted cs = some ps) :
    ∀ p ∈ ps, p < 65536 := by
  have hplain : ∀ {groups : List (List Char)} {ps : List Nat}, groups.mapM pieceOf? = some ps →
      ∀ p ∈ ps, p < 65536 := fun hgroups p hp => by
    obtain ⟨group, -, hgroup⟩ := mem_of_mapM hgroups hp
    exact lt_of_pieceOf? hgroup
  rw [piecesOf?] at h
  split at h
  · obtain rfl := Option.some.inj h
    exact fun p hp => absurd hp List.not_mem_nil
  · dsimp only at h
    split at h
    next last hlast =>
      split at h
      · simp only [Option.bind_eq_bind, Option.bind_eq_some_iff] at h
        obtain ⟨front, hfront, bytes, hbytes, h⟩ := h
        have hbyte : ∀ b ∈ bytes, b ≤ 255 := fun b hb => by
          obtain ⟨part, -, hpart⟩ := mem_of_mapM hbytes hb
          exact le_of_plainByte? hpart
        split at h
        next a b c d =>
          obtain rfl := Option.some.inj h
          simp only [List.mem_cons, List.not_mem_nil, or_false, forall_eq_or_imp,
            forall_eq] at hbyte
          intro p hp
          rcases List.mem_append.mp hp with hp | hp
          · exact hplain hfront p hp
          · simp only [List.mem_cons, List.not_mem_nil, or_false] at hp
            omega
        next => cases h
      · exact hplain h
    next => cases h

/-- What is read as an address of version 6 has eight pieces. -/
theorem arePieces_of_ipv6? (h : ipv6? cs = some ps) : ArePieces ps := by
  rw [ipv6?] at h
  split at h
  next =>
    obtain ⟨hpieces, hlength⟩ := Option.filter_eq_some_iff.mp h
    exact ⟨by simpa using hlength, lt_of_piecesOf? hpieces⟩
  next before after _ =>
    simp only [Option.bind_eq_bind, Option.bind_eq_some_iff] at h
    obtain ⟨front, hfront, back, hback, h⟩ := h
    split at h
    next hfew =>
      obtain rfl := Option.some.inj h
      constructor
      · simp only [List.length_append, List.length_replicate]
        omega
      · intro p hp
        rcases List.mem_append.mp hp with hp | hp
        · rcases List.mem_append.mp hp with hp | hp
          · exact lt_of_piecesOf? hfront p hp
          · rw [(List.mem_replicate.mp hp).2]
            decide
        · exact lt_of_piecesOf? hback p hp
    next => cases h

/-- The run of zeros that is left out: it is there, and it lies within the pieces. -/
theorem longestZeros_spec : ∀ ps : List Nat,
    ps = ps.take (longestZeros ps).1 ++ List.replicate (longestZeros ps).2 0 ++
      ps.drop ((longestZeros ps).1 + (longestZeros ps).2) ∧
    (longestZeros ps).1 + (longestZeros ps).2 ≤ ps.length
  | [] => ⟨rfl, Nat.le_refl _⟩
  | p :: ps => by
    obtain ⟨hparts, hle⟩ := longestZeros_spec ps
    rw [longestZeros]
    dsimp only
    split
    · have hzeros : (p :: ps).takeWhile (· == 0) = List.replicate (zeros (p :: ps)) 0 := by
        refine List.eq_replicate_iff.mpr ⟨rfl, fun q hq => ?_⟩
        simpa using List.mem_takeWhile_imp hq
      have hrest : (p :: ps).drop (zeros (p :: ps)) = (p :: ps).dropWhile (· == 0) := by
        have hsplit := List.takeWhile_append_dropWhile (p := (· == 0)) (l := p :: ps)
        calc (p :: ps).drop (zeros (p :: ps))
            = ((p :: ps).takeWhile (· == 0) ++ (p :: ps).dropWhile (· == 0)).drop
                ((p :: ps).takeWhile (· == 0)).length := by rw [hsplit]; rfl
          _ = (p :: ps).dropWhile (· == 0) := List.drop_left
      refine ⟨?_, ?_⟩
      · rw [List.take_zero, List.nil_append, Nat.zero_add, ← hzeros, hrest,
          List.takeWhile_append_dropWhile]
      · rw [Nat.zero_add]
        exact (List.takeWhile_prefix (· == 0)).length_le
    · refine ⟨?_, ?_⟩
      · rw [List.take_succ_cons, Nat.add_right_comm, List.drop_succ_cons, List.cons_append,
          List.cons_append, ← hparts]
      · rw [List.length_cons, Nat.add_right_comm]
        exact Nat.succ_le_succ hle

theorem pieceOf?_digitsIn (h : n < 65536) : pieceOf? (digitsIn 16 n) = some n := by
  have hlength : (digitsIn 16 n).length ≤ 4 := length_digitsIn_le (k := 3) (by decide) h
  have hsome : (digitsIn 16 n).isEmpty = false := by
    rw [← Bool.not_eq_true, List.isEmpty_iff]
    exact digitsIn_ne_nil
  rw [pieceOf?, hsome, decide_eq_false (Nat.not_lt.mpr hlength)]
  exact numeral?_digitsIn (by decide) (by decide) n

theorem ne_colon_of_mem_digitsIn (h : c ∈ digitsIn 16 n) : c ≠ ':' ∧ c ≠ '.' :=
  of_mem_digitsIn (P := fun c => c ≠ ':' ∧ c ≠ '.') (by decide) (by decide) (by decide) h

theorem splitWhere_groupsText (hne : ps ≠ []) :
    splitWhere (· == ':') (groupsText ps) = ps.map (digitsIn 16) := by
  refine splitWhere_joinWith rfl (by simpa using hne) fun part hpart d hd => ?_
  obtain ⟨p, -, rfl⟩ := List.mem_map.mp hpart
  exact beq_false_of_ne (ne_colon_of_mem_digitsIn hd).1

theorem groupsText_cons_cons (p q : Nat) (ps : List Nat) :
    groupsText (p :: q :: ps) = digitsIn 16 p ++ ':' :: groupsText (q :: ps) := by
  rw [groupsText, List.map_cons, List.map_cons, joinWith_cons_cons]
  rfl

/-- The text of some groups begins with a digit. -/
theorem exists_groupsText_cons (p : Nat) (ps : List Nat) :
    ∃ d more, groupsText (p :: ps) = d :: more ∧ d ≠ ':' := by
  obtain ⟨d, more, hdigits⟩ := List.exists_cons_of_ne_nil (@digitsIn_ne_nil 16 p)
  have hd : d ≠ ':' := (ne_colon_of_mem_digitsIn (hdigits ▸ List.mem_cons_self)).1
  cases ps with
  | nil =>
    refine ⟨d, more, ?_, hd⟩
    rw [groupsText, List.map_singleton, joinWith_singleton, hdigits]
  | cons q ps =>
    refine ⟨d, more ++ ':' :: groupsText (q :: ps), ?_, hd⟩
    rw [groupsText_cons_cons, hdigits, List.cons_append]

/-- The groups of pieces are read back, dots or not: there is none in them. -/
theorem piecesOf?_groupsText (dotted : Bool) (h : ∀ p ∈ ps, p < 65536) :
    piecesOf? dotted (groupsText ps) = some ps := by
  by_cases hne : ps = []
  · rw [hne]
    rfl
  · have hsome : (groupsText ps).isEmpty = false := by
      obtain ⟨p, ps, rfl⟩ := List.exists_cons_of_ne_nil hne
      obtain ⟨d, more, hmore, -⟩ := exists_groupsText_cons p ps
      rw [hmore]
      rfl
    have hlast : ∃ p ∈ ps, (ps.map (digitsIn 16)).getLast? = some (digitsIn 16 p) := by
      refine ⟨ps.getLast hne, List.getLast_mem hne, ?_⟩
      rw [List.getLast?_map, List.getLast?_eq_some_getLast hne]
      rfl
    obtain ⟨p, -, hlast⟩ := hlast
    have hdots : (digitsIn 16 p).contains '.' = false := by
      rw [← Bool.not_eq_true, List.contains_iff_mem]
      exact fun hdot => (ne_colon_of_mem_digitsIn hdot).2 rfl
    rw [piecesOf?, hsome, splitWhere_groupsText hne]
    simp only [Bool.false_eq_true, if_false, hlast, hdots, Bool.and_false]
    exact mapM_map_eq_some fun p hp => pieceOf?_digitsIn (h p hp)

theorem cutDoubleColon?_append (h : ∀ c ∈ cs, c ≠ ':') (rest : List Char) :
    cutDoubleColon? (cs ++ rest) =
      (cutDoubleColon? rest).map fun (before, after) => (cs ++ before, after) := by
  induction cs with
  | nil => simp
  | cons c cs ih =>
    rw [List.cons_append, cutDoubleColon?.eq_def]
    split
    next heq => exact absurd (List.cons.inj heq).1 (h c List.mem_cons_self)
    next d more _ heq =>
      obtain ⟨rfl, rfl⟩ := List.cons.inj heq
      rw [ih fun d hd => h d (.tail c hd), Option.map_map]
      rfl
    next heq => cases heq

/-- No group is empty, so a double colon can only follow the groups. -/
theorem cutDoubleColon?_groupsText : ∀ (ps : List Nat) (rest : List Char),
    cutDoubleColon? (groupsText ps ++ rest) =
      (cutDoubleColon? rest).map fun (before, after) => (groupsText ps ++ before, after)
  | [], rest => by
    show cutDoubleColon? rest = _
    cases cutDoubleColon? rest <;> rfl
  | [p], rest => by
    rw [groupsText, List.map_singleton, joinWith_singleton]
    exact cutDoubleColon?_append (fun c hc => (ne_colon_of_mem_digitsIn hc).1) rest
  | p :: q :: ps, rest => by
    obtain ⟨d, more, hmore, hd⟩ := exists_groupsText_cons q ps
    have hcolon : cutDoubleColon? (':' :: (groupsText (q :: ps) ++ rest)) =
        (cutDoubleColon? (groupsText (q :: ps) ++ rest)).map
          fun (before, after) => (':' :: before, after) := by
      rw [hmore, cutDoubleColon?.eq_def]
      split
      next heq => exact absurd (List.cons.inj (List.cons.inj heq).2).1 hd
      next heq =>
        obtain ⟨rfl, rfl⟩ := List.cons.inj heq
        rfl
      next heq => cases heq
    rw [groupsText_cons_cons, List.append_assoc, List.cons_append,
      cutDoubleColon?_append (fun c hc => (ne_colon_of_mem_digitsIn hc).1), hcolon,
      cutDoubleColon?_groupsText (q :: ps) rest, Option.map_map, Option.map_map]
    congr 1
    funext r
    simp

/-- An address of version 6 is read back. -/
theorem ipv6?_ipv6Text (h : ArePieces ps) : ipv6? (ipv6Text ps) = some ps := by
  obtain ⟨hparts, hle⟩ := longestZeros_spec ps
  rw [ipv6Text]
  generalize longestZeros ps = run at *
  obtain ⟨start, length⟩ := run
  dsimp only at *
  split
  · have hnone : cutDoubleColon? (groupsText ps) = none := by
      have := cutDoubleColon?_groupsText ps []
      rw [List.append_nil] at this
      rw [this]
      rfl
    rw [ipv6?, hnone, piecesOf?_groupsText true h.small]
    simp [Option.filter, h.length]
  · have hcut : cutDoubleColon? (groupsText (ps.take start) ++ [':', ':'] ++
          groupsText (ps.drop (start + length))) =
        some (groupsText (ps.take start), groupsText (ps.drop (start + length))) := by
      rw [List.append_assoc, cutDoubleColon?_groupsText]
      show some (groupsText (ps.take start) ++ [], groupsText (ps.drop (start + length))) = _
      rw [List.append_nil]
    have hfront := piecesOf?_groupsText false fun p (hp : p ∈ ps.take start) =>
      h.small p (List.mem_of_mem_take hp)
    have hback := piecesOf?_groupsText true fun p (hp : p ∈ ps.drop (start + length)) =>
      h.small p (List.mem_of_mem_drop hp)
    have hlength := h.length
    have hmissing : 8 - (ps.take start).length - (ps.drop (start + length)).length = length := by
      rw [List.length_take, List.length_drop]
      omega
    have hfew : (ps.take start).length + (ps.drop (start + length)).length ≤ 7 := by
      rw [List.length_take, List.length_drop]
      omega
    rw [ipv6?, hcut]
    dsimp only
    rw [hfront, hback]
    simp only [Option.bind_eq_bind, Option.bind_some, hfew, if_true, hmissing]
    rw [← hparts]

end Tutor.Url.Host
