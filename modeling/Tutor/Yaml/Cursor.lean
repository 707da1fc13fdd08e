import Tutor.Text.Letter

/-!
# Places in a YAML text

A YAML text is read character by character; the line and the column that were reached matter, since
blocks are told by their indentation. All ways to end a line that read as a line feed are made one
before.
-/

namespace Tutor.Yaml

/-! ### Characters -/

/-- The characters that may stand in a text. -/
def isPrintable (c : Char) : Bool :=
  let n := c.toNat
  n == 9 || n == 10 || n == 13 || (0x20 ≤ n && n ≤ 0x7E) || n == 0x85 || (0xA0 ≤ n && n ≤ 0xFFFD) ||
    0x10000 ≤ n

/-- The characters that end a line. -/
def isBreak (c : Char) : Bool := c == '\n' || c == '\u2028' || c == '\u2029'

/-- A blank or a tab. -/
def isSpace (c : Char) : Bool := c == ' ' || c == '\t'

/-- What stands between words: blanks, tabs and ends of lines. -/
def isGap (c : Char) : Bool := isSpace c || isBreak c

/-- The characters of names. -/
def isWordChar (c : Char) : Bool := c.isAlphanum || c == '-' || c == '_'

/-- Whether a gap, or the end of the text, comes next. -/
def atGap (cs : List Char) : Bool := cs.head?.all isGap

/-- Whether a line that begins here separates documents. -/
def atMarker (cs : List Char) : Bool :=
  (['-', '-', '-'].isPrefixOf cs || ['.', '.', '.'].isPrefixOf cs) && atGap (cs.drop 3)

/-- The text with the ends of its lines made one. -/
def withPlainBreaks : List Char → List Char
  | '\r' :: '\n' :: rest => '\n' :: withPlainBreaks rest
  | c :: rest => (if c == '\r' || c == '\u0085' then '\n' else c) :: withPlainBreaks rest
  | [] => []

/-! ### Cursors -/

/-- A place in a text, and what follows it. -/
structure Cursor where
  /-- What follows. -/
  rest : List Char
  /-- The number of lines before. -/
  line : Nat := 0
  /-- The number of characters before on the line. -/
  column : Nat := 0
  /-- The number of characters before in the text. -/
  index : Nat := 0
deriving Repr

namespace Cursor

/-- Passes over a character. -/
def next (c : Cursor) : Cursor :=
  match c.rest with
  | [] => c
  | d :: rest =>
    if isBreak d then ⟨rest, c.line + 1, 0, c.index + 1⟩
    else ⟨rest, c.line, c.column + 1, c.index + 1⟩

/-- Passes over some characters. -/
def advance : Nat → Cursor → Cursor
  | 0, c => c
  | n + 1, c => advance n c.next

/-- Passes over the longest run of characters that satisfy `p`. -/
def skipWhile (p : Char → Bool) (c : Cursor) : Cursor := c.advance (c.rest.takeWhile p).length

/-- Passes over everything up to the end of the text that is left. -/
def skipTo (rest : List Char) (c : Cursor) : Cursor := c.advance (c.rest.length - rest.length)

end Cursor

end Tutor.Yaml
