import Tutor.Json.Numeral

/-!
# String literals

A string literal is a sequence of pieces: characters that stand for themselves, escapes, UTF-16 units
written as escapes, and bytes that are no character. It spells a text if its units pair up and no
stray byte is in it; a literal that spells none is still a literal, and may stand where nobody wants
its text.
-/

namespace Tutor.Json

open Tutor.Text

/-- A piece of a string literal. -/
inductive Piece where
  /-- A character, written as itself or as a short escape. -/
  | char (c : Char)
  /-- A UTF-16 unit, written as an escape with four digits. -/
  | unit (n : Nat)
  /-- A byte that is no character. -/
  | stray
deriving DecidableEq, Repr

namespace Piece

/-- The character of a short escape. -/
def ofEscape? : Char → Option Char
  | '"' => some '"'
  | '\\' => some '\\'
  | '/' => some '/'
  | 'b' => some '\x08'
  | 'f' => some '\x0c'
  | 'n' => some '\n'
  | 'r' => some '\r'
  | 't' => some '\t'
  | _ => none

/-- The unit that four hexadecimal digits spell. -/
def unitOf? (a b c d : Symbol) : Option Nat := do
  numeral? 16 [← a, ← b, ← c, ← d]

/-- The pieces of a literal after its opening quote, and what follows its closing quote. There is no
literal if the quote is missing, an escape is malformed or a control character stands in it. -/
def read? : List Symbol → Option (List Piece × List Symbol)
  | some '"' :: rest => some ([], rest)
  | some '\\' :: some 'u' :: a :: b :: c :: d :: rest => do
    let n ← unitOf? a b c d
    let (ps, after) ← read? rest
    return (.unit n :: ps, after)
  | some '\\' :: some e :: rest => do
    let c ← ofEscape? e
    let (ps, after) ← read? rest
    return (.char c :: ps, after)
  | some c :: rest =>
    if c = '\\' ∨ c.toNat < 0x20 then none
    else do
      let (ps, after) ← read? rest
      return (.char c :: ps, after)
  | none :: rest => do
    let (ps, after) ← read? rest
    return (.stray :: ps, after)
  | [] => none

/-- A piece in front of others leaves what they leave. -/
theorem length_of_cons {n : Nat} {p : Piece} {x : Option (List Piece × List Symbol)} {r}
    (hx : ∀ {y}, x = some y → y.2.length < n)
    (h : (do let (ps, after) ← x; return (p :: ps, after)) = some r) : r.2.length < n := by
  obtain ⟨y, hy, hr⟩ := Option.bind_eq_some_iff.mp h
  obtain rfl := Option.some.inj hr
  show y.2.length < n
  exact hx hy

/-- Reading a literal leaves less than there was. By induction along the reading, each step of which
takes one character at least. -/
theorem length_of_read? : ∀ {cs : List Symbol} {r}, read? cs = some r → r.2.length < cs.length := by
  intro cs
  fun_induction read? cs with
  | case1 rest =>
    intro r h
    obtain rfl := Option.some.inj h
    exact Nat.lt_add_one _
  | case2 a b c d rest ih =>
    intro r h
    obtain ⟨n, -, h⟩ := Option.bind_eq_some_iff.mp h
    exact Nat.lt_add_right 6 (length_of_cons ih h)
  | case3 e rest _ ih =>
    intro r h
    obtain ⟨c, -, h⟩ := Option.bind_eq_some_iff.mp h
    exact Nat.lt_add_right 2 (length_of_cons ih h)
  | case4 =>
    intro r h
    cases h
  | case5 c rest _ _ _ hc ih =>
    intro r h
    exact Nat.lt_add_right 1 (length_of_cons ih h)
  | case6 rest ih =>
    intro r h
    exact Nat.lt_add_right 1 (length_of_cons ih h)
  | case7 =>
    intro r h
    cases h

/-- The code point of two units that form a pair. -/
def pairUp? (high low : Nat) : Option Char :=
  if 0xD800 ≤ high ∧ high ≤ 0xDBFF ∧ 0xDC00 ≤ low ∧ low ≤ 0xDFFF then
    some (Char.ofNat (0x10000 + (high - 0xD800) * 0x400 + (low - 0xDC00)))
  else none

/-- The text that pieces spell, if they spell one. -/
def spell? : List Piece → Option (List Char)
  | [] => some []
  | .char c :: ps => (spell? ps).map (c :: ·)
  | .stray :: _ => none
  | .unit n :: .unit m :: ps =>
    if n < 0xD800 ∨ 0xDFFF < n then (spell? (.unit m :: ps)).map (Char.ofNat n :: ·)
    else (pairUp? n m).bind fun c => (spell? ps).map (c :: ·)
  | .unit n :: ps =>
    if n < 0xD800 ∨ 0xDFFF < n then (spell? ps).map (Char.ofNat n :: ·) else none
termination_by ps => ps.length

end Piece

/-! ### Writing -/

/-- A character inside a string literal. -/
def escaped (c : Char) : List Char :=
  match c with
  | '"' => ['\\', '"']
  | '\\' => ['\\', '\\']
  | '\x08' => ['\\', 'b']
  | '\x0c' => ['\\', 'f']
  | '\n' => ['\\', 'n']
  | '\r' => ['\\', 'r']
  | '\t' => ['\\', 't']
  | c =>
    if c.toNat < 0x20 then
      ['\\', 'u', '0', '0', digitChar (c.toNat / 16), digitChar (c.toNat % 16)]
    else [c]

/-- The string literal of a text. -/
def quoted (s : String) : List Char := '"' :: s.toList.flatMap escaped ++ ['"']

end Tutor.Json
