import Tutor.Json.Literal

/-!
# JSON texts as trees

Reading a text never fails as a whole: it gives the tree of what is there, up to the place where the
text stops to be JSON. A value that cannot be read is `broken`, and arrays and objects say whether
they are closed. What is wrong is then found in the order of the text by whoever walks the tree, and
parts that nobody asks for are only checked for being whole.
-/

namespace Tutor.Json

open Tutor.Text

/-- A JSON text, up to the place where it breaks. -/
inductive Tree where
  /-- The null literal. -/
  | null
  /-- A truth value. -/
  | bool (b : Bool)
  /-- A number literal. -/
  | number (n : Numeral)
  /-- A string literal, with its text if it spells one. -/
  | text (s : Option String)
  /-- The items of an array, and whether it is closed after them. -/
  | array (items : List Tree) (closed : Bool)
  /-- The members of an object, and whether it is closed after them. -/
  | object (members : List (Option String × Tree)) (closed : Bool)
  /-- What is no value. -/
  | broken

/-- The rest of a text after something was read from its front. -/
abbrev Rest (cs : List Symbol) := { r : List Symbol // r.length < cs.length }

/-- Drops the blank characters of JSON. -/
def skipBlanks : List Symbol → List Symbol
  | some ' ' :: cs | some '\n' :: cs | some '\t' :: cs | some '\r' :: cs => skipBlanks cs
  | cs => cs

theorem length_skipBlanks (cs : List Symbol) : (skipBlanks cs).length ≤ cs.length := by
  fun_induction skipBlanks cs with
  | case1 cs ih => exact Nat.le_succ_of_le ih
  | case2 cs ih => exact Nat.le_succ_of_le ih
  | case3 cs ih => exact Nat.le_succ_of_le ih
  | case4 cs ih => exact Nat.le_succ_of_le ih
  | case5 => exact Nat.le_refl _

namespace Numeral

theorem length_of_exponentDigits? {b : Bool} {cs : List Symbol} {r}
    (h : exponentDigits? b cs = some r) : r.2.length ≤ cs.length := by
  simp only [exponentDigits?] at h
  split at h
  · exact absurd h (by simp)
  · cases h; exact length_digits cs

theorem length_of_exponentOf? {cs : List Symbol} {r} (h : exponentOf? cs = some r) :
    r.2.length ≤ cs.length := by
  unfold exponentOf? at h
  split at h
  all_goals first
    | (cases h; exact Nat.le_refl _)
    | (have hd := length_of_exponentDigits? h; simp only [List.length_cons]; omega)

theorem length_of_fractionOf? {cs : List Symbol} {r} (h : fractionOf? cs = some r) :
    r.2.length ≤ cs.length := by
  unfold fractionOf? at h
  split at h
  · next rest =>
    simp only at h
    split at h
    · exact absurd h (by simp)
    · cases h; exact Nat.le_succ_of_le (length_digits rest)
  · cases h; exact Nat.le_refl _

theorem length_digits_lt {cs : List Symbol} (h : (digits cs).1 ≠ []) :
    (digits cs).2.length < cs.length := by
  match cs with
  | [] => exact absurd rfl h
  | none :: _ => exact absurd rfl h
  | some c :: rest =>
    simp only [digits] at h ⊢
    split at h
    · exact Nat.lt_succ_of_le (length_digits rest)
    · exact absurd rfl h

theorem length_of_unsigned? {b : Bool} {cs : List Symbol} {r} (h : unsigned? b cs = some r) :
    r.2.length < cs.length := by
  unfold unsigned? at h
  simp only at h
  split at h
  · exact absurd h (by simp)
  · exact absurd h (by simp)
  · next whole hne _ =>
    simp only [Option.bind_eq_bind, Option.bind_eq_some_iff, Option.pure_def] at h
    obtain ⟨⟨f, c1⟩, h1, ⟨e, c2⟩, h2, heq⟩ := h
    cases heq
    have h3 := length_of_fractionOf? h1
    have h4 := length_of_exponentOf? h2
    have h5 := @length_digits_lt cs (fun h0 => hne h0)
    simp only at *
    omega

theorem length_of_read? {cs : List Symbol} {r} (h : read? cs = some r) :
    r.2.length < cs.length := by
  unfold read? at h
  split at h
  · have := length_of_unsigned? h; simp only [List.length_cons]; omega
  · exact length_of_unsigned? h

end Numeral

/-- A word that stands for a value. -/
def word? (word : List Char) (value : Tree) (cs : List Symbol) : Tree × Option (Rest cs) :=
  if h : word ≠ [] ∧ cs.take word.length = word.map some then
    (value, some ⟨cs.drop word.length, by
      have h1 := congrArg List.length h.2
      have h2 := List.length_pos_iff.2 h.1
      simp only [List.length_take, List.length_map, List.length_drop] at *
      omega⟩)
  else (.broken, none)

/-- Passes the rest of a shorter text on as the rest of a longer one. -/
def Rest.widen {cs ds : List Symbol} (h : ds.length ≤ cs.length) (r : Rest ds) : Rest cs :=
  ⟨r.val, Nat.lt_of_lt_of_le r.property h⟩

mutual

/-- A value at the front of a text, and the rest of the text if the value is whole. -/
def readValue (cs : List Symbol) : Tree × Option (Rest cs) :=
  match hv : skipBlanks cs with
  | [] => (.broken, none)
  | none :: _ => (.broken, none)
  | some c :: rest =>
    have hlen : rest.length < cs.length := by
      have := length_skipBlanks cs; rw [hv] at this; exact this
    if c = '"' then
      match hs : Piece.read? rest with
      | none => (.broken, none)
      | some (ps, after) =>
        (.text ((Piece.spell? ps).map String.ofList),
          some ⟨after, Nat.lt_trans (Piece.length_of_read? hs) hlen⟩)
    else if c = '[' then
      match hs : skipBlanks rest with
      | some ']' :: after =>
        (.array [] true, some ⟨after, by
          have := length_skipBlanks rest; rw [hs] at this; simp at this; omega⟩)
      | _ =>
        let r := readItems rest
        (.array r.1 r.2.isSome, r.2.map (Rest.widen (Nat.le_of_lt hlen)))
    else if c = '\x7b' then
      match hs : skipBlanks rest with
      | some '\x7d' :: after =>
        (.object [] true, some ⟨after, by
          have := length_skipBlanks rest; rw [hs] at this; simp at this; omega⟩)
      | _ =>
        let r := readMembers rest
        (.object r.1 r.2.isSome, r.2.map (Rest.widen (Nat.le_of_lt hlen)))
    else
      have hle : (skipBlanks cs).length ≤ cs.length := length_skipBlanks cs
      let passOn (r : Tree × Option (Rest (skipBlanks cs))) : Tree × Option (Rest cs) :=
        (r.1, r.2.map (Rest.widen hle))
      if c = 'n' then passOn (word? "null".toList .null _)
      else if c = 't' then passOn (word? "true".toList (.bool true) _)
      else if c = 'f' then passOn (word? "false".toList (.bool false) _)
      else
        match hn : Numeral.read? (some c :: rest) with
        | none => (.broken, none)
        | some (n, after) =>
          (.number n, some ⟨after, by
            have := Numeral.length_of_read? hn
            simp only [List.length_cons] at this
            omega⟩)
termination_by (cs.length, 0)

/-- The items of an array from one that must be there, and the rest behind the closing bracket. -/
def readItems (cs : List Symbol) : List Tree × Option (Rest cs) :=
  match readValue cs with
  | (t, none) => ([t], none)
  | (t, some r) =>
    match hs : skipBlanks r.val with
    | some ']' :: after =>
      ([t], some ⟨after, by
        have h1 := length_skipBlanks r.val; rw [hs] at h1
        have h2 := r.property; simp at h1; omega⟩)
    | some ',' :: more =>
      have hlen : more.length < cs.length := by
        have h1 := length_skipBlanks r.val; rw [hs] at h1
        have h2 := r.property; simp at h1; omega
      match skipBlanks more with
      | some ']' :: _ => ([t], none)
      | _ =>
        let q := readItems more
        (t :: q.1, q.2.map (Rest.widen (Nat.le_of_lt hlen)))
    | _ => ([t], none)
termination_by (cs.length, 1)

/-- The members of an object from one that must be there, and the rest behind the closing brace. -/
def readMembers (cs : List Symbol) : List (Option String × Tree) × Option (Rest cs) :=
  match hk : skipBlanks cs with
  | some '"' :: afterQuote =>
    match hs : Piece.read? afterQuote with
    | none => ([], none)
    | some (ps, afterKey) =>
      let key := (Piece.spell? ps).map String.ofList
      have hkey : afterKey.length + 1 < cs.length := by
        have h1 := length_skipBlanks cs; rw [hk] at h1
        have h2 := Piece.length_of_read? hs
        simp only [List.length_cons] at *
        omega
      match hc : skipBlanks afterKey with
      | some ':' :: afterColon =>
        have hcolon : afterColon.length < cs.length := by
          have h1 := length_skipBlanks afterKey; rw [hc] at h1; simp at h1; omega
        match readValue afterColon with
        | (t, none) => ([(key, t)], none)
        | (t, some r) =>
          match he : skipBlanks r.val with
          | some '\x7d' :: after =>
            ([(key, t)], some ⟨after, by
              have h1 := length_skipBlanks r.val; rw [he] at h1
              have h2 := r.property; simp at h1; omega⟩)
          | some ',' :: more =>
            have hlen : more.length < cs.length := by
              have h1 := length_skipBlanks r.val; rw [he] at h1
              have h2 := r.property; simp at h1; omega
            let q := readMembers more
            ((key, t) :: q.1, q.2.map (Rest.widen (Nat.le_of_lt hlen)))
          | _ => ([(key, t)], none)
      | _ => ([(key, .broken)], none)
  | _ => ([], none)
termination_by (cs.length, 1)

end

/-- A text as a tree, and whether nothing but blanks follows the value. -/
structure Document where
  /-- The value. -/
  tree : Tree
  /-- Whether the text ends after it. -/
  ends : Bool

/-- Reads a text. -/
def Document.ofSymbols (cs : List Symbol) : Document :=
  match readValue cs with
  | (t, none) => ⟨t, true⟩
  | (t, some r) => ⟨t, (skipBlanks r.val).isEmpty⟩

/-- Reads a string. -/
def Document.ofText (s : String) : Document := ofSymbols (s.toList.map some)

/-- Reads bytes. -/
def Document.ofBytes (bs : List UInt8) : Document := ofSymbols (decode bs)

end Tutor.Json
