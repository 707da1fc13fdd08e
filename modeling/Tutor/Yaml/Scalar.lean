import Tutor.Yaml.Cursor

/-!
# Scalars

A scalar is a text in one of five styles. All but the literal style fold lines: a single line break
reads as a blank, and of several the first is dropped.
-/

namespace Tutor.Yaml

open Tutor.Text

/-- The style of a scalar, as far as it matters to what the scalar means. -/
inductive Style where
  /-- Bare text. -/
  | plain
  /-- Text in quotes of either kind. -/
  | quoted
  /-- A block that keeps its lines. -/
  | literal
  /-- A block that folds its lines. -/
  | folded
deriving DecidableEq, Repr

/-- What a gap in a scalar reads as. -/
def folding (gap : List Char) : List Char :=
  match gap.filter isBreak with
  | [] => gap
  | ['\n'] => [' ']
  | '\n' :: more => more
  | breaks => breaks

/-! ### Bare text -/

/-- The characters that structure collections. -/
def isFlowMark (c : Char) : Bool :=
  c == ',' || c == '[' || c == ']' || c == '\x7b' || c == '\x7d'

/-- The bare text up to the next gap or the next mark. Inside of a collection a colon must not stand
right in front of a mark. -/
def bareRun? (inFlow : Bool) : List Char → Option (List Char)
  | [] => some []
  | c :: rest =>
    if isGap c then some []
    else if inFlow && c == ':' && rest.head?.any (fun d => isFlowMark d || d == '?') then none
    else if (c == ':' && atGap rest) || (inFlow && isFlowMark c) then some []
    else (bareRun? inFlow rest).map (c :: ·)

/-- Whether a tab stands left of a margin on one of the lines that begin in a gap. -/
def hasTabBefore (margin : Nat) (crossed : Bool) (column : Nat) : List Char → Bool
  | [] => false
  | c :: rest =>
    if isBreak c then hasTabBefore margin true 0 rest
    else (crossed && c == '\t' && column < margin) || hasTabBefore margin crossed (column + 1) rest

/-- A scalar that was read. -/
structure Scanned where
  /-- The text. -/
  text : List Char
  /-- Where reading goes on. -/
  after : Cursor
  /-- Whether that is on a later line than where the text ends. -/
  crossed : Bool := false

/-- Bare text, over several lines if they reach to the right of the margin. The count bounds the
number of gaps. -/
def bare? (inFlow : Bool) (margin : Nat) : Nat → Cursor → Option Scanned
  | 0, _ => none
  | n + 1, c => do
    if (c.column == 0 && atMarker c.rest) || c.rest.head? == some '#' then
      return { text := [], after := c }
    let run ← bareRun? inFlow c.rest
    let c := c.advance run.length
    let gap := c.rest.takeWhile isGap
    let crossed := gap.any isBreak
    let after := c.advance gap.length
    if gap.isEmpty then return { text := run, after }
    if hasTabBefore margin false c.column gap then none
    if !inFlow && after.column < margin then return { text := run, after, crossed }
    let more ← bare? inFlow margin n after
    if more.text.isEmpty then return { text := run, after, crossed }
    return { more with text := run ++ folding gap ++ more.text }

/-! ### Text in quotes

Readers begin behind the opening quote, and give back what follows the closing one. -/

/-- What is left after a run of characters is no longer than what was there. -/
theorem length_dropWhile_le (p : α → Bool) (l : List α) : (l.dropWhile p).length ≤ l.length :=
  (List.dropWhile_suffix p).length_le

/-- Whether a document would end in the middle of a scalar: behind a gap a line begins that
separates documents. -/
def breaksOff (gap rest : List Char) : Bool := gap.getLast?.any isBreak && atMarker rest

/-- Text in single quotes, in which two quotes stand for one. -/
def singleQuoted? (cs : List Char) : Option (List Char × List Char) :=
  match cs with
  | [] => none
  | c :: rest =>
    if c == '\x27' then
      match rest with
      | '\x27' :: rest => (singleQuoted? rest).map fun (t, r) => ('\x27' :: t, r)
      | rest => some ([], rest)
    else if isGap c then
      let gap := c :: rest.takeWhile isGap
      if breaksOff gap (rest.dropWhile isGap) then none
      else (singleQuoted? (rest.dropWhile isGap)).map fun (t, r) => (folding gap ++ t, r)
    else (singleQuoted? rest).map fun (t, r) => (c :: t, r)
termination_by cs.length
decreasing_by
  · simp only [List.length_cons]; omega
  · exact Nat.lt_succ_of_le (length_dropWhile_le ..)
  · simp

/-- The character of an escape without digits. -/
def escape? : Char → Option Char
  | '0' => some '\x00'
  | 'a' => some '\x07'
  | 'b' => some '\x08'
  | 't' => some '\t'
  | '\t' => some '\t'
  | 'n' => some '\n'
  | 'v' => some '\x0b'
  | 'f' => some '\x0c'
  | 'r' => some '\r'
  | 'e' => some '\x1b'
  | ' ' => some ' '
  | '"' => some '"'
  | '/' => some '/'
  | '\\' => some '\\'
  | 'N' => some '\u0085'
  | '_' => some '\u00a0'
  | 'L' => some '\u2028'
  | 'P' => some '\u2029'
  | _ => none

/-- The number of digits of an escape that has some. -/
def escapeDigits? : Char → Option Nat
  | 'x' => some 2
  | 'u' => some 4
  | 'U' => some 8
  | _ => none

/-- The character of a code point that digits spell. -/
def codePoint? (digits : List Char) : Option Char := do
  let n ← numeral? 16 digits
  if (0xD800 ≤ n && n ≤ 0xDFFF) || 0x10FFFF < n then none else some (Char.ofNat n)

/-- Text in double quotes, in which a backslash begins an escape. An escaped line break reads as
nothing, and so do the blanks behind it. -/
def doubleQuoted? (cs : List Char) : Option (List Char × List Char) :=
  match cs with
  | [] => none
  | '"' :: rest => some ([], rest)
  | '\\' :: c :: rest =>
    if isBreak c then
      let gap := rest.takeWhile isGap
      if breaksOff (c :: gap) (rest.dropWhile isGap) then none
      else (doubleQuoted? (rest.dropWhile isGap)).map fun (t, r) => (gap.filter isBreak ++ t, r)
    else
      match escapeDigits? c with
      | some n =>
        if rest.length < n then none
        else
          match codePoint? (rest.take n) with
          | some d => (doubleQuoted? (rest.drop n)).map fun (t, r) => (d :: t, r)
          | none => none
      | none =>
        match escape? c with
        | some d => (doubleQuoted? rest).map fun (t, r) => (d :: t, r)
        | none => none
  | c :: rest =>
    if isGap c then
      let gap := c :: rest.takeWhile isGap
      if breaksOff gap (rest.dropWhile isGap) then none
      else (doubleQuoted? (rest.dropWhile isGap)).map fun (t, r) => (folding gap ++ t, r)
    else (doubleQuoted? rest).map fun (t, r) => (c :: t, r)
termination_by cs.length
decreasing_by
  · have := length_dropWhile_le isGap rest
    simp only [List.length_cons]; omega
  · simp only [List.length_cons, List.length_drop]; omega
  · simp only [List.length_cons]; omega
  · exact Nat.lt_succ_of_le (length_dropWhile_le ..)
  · simp

/-! ### Blocks of text -/

/-- What becomes of the line breaks at the end of a block. -/
inductive Chomping where
  /-- All are dropped. -/
  | strip
  /-- One is kept. -/
  | clip
  /-- All are kept. -/
  | keep
deriving DecidableEq, Repr

/-- The heading of a block: what becomes of its end, and how far it is indented if that is said. -/
structure Heading where
  /-- What becomes of the line breaks at the end. -/
  chomping : Chomping := .clip
  /-- The indentation, zero if it is not said. -/
  indent : Nat := 0

/-- The chomping that a character stands for. -/
def chomping? : Char → Option Chomping
  | '-' => some .strip
  | '+' => some .keep
  | _ => none

/-- The indentation that a character stands for. -/
def indentDigit? (c : Char) : Option Nat := (digit? c).filter (0 < ·)

/-- The marks of a heading, in either order, and what follows them. -/
def heading (cs : List Char) : Heading × List Char :=
  match cs with
  | a :: b :: rest =>
    match chomping? a, indentDigit? a, chomping? b, indentDigit? b with
    | some c, _, _, some i | _, some i, some c, _ => (⟨c, i⟩, rest)
    | some c, _, _, none => (⟨c, 0⟩, b :: rest)
    | _, some i, none, _ => (⟨.clip, i⟩, b :: rest)
    | _, _, _, _ => ({}, cs)
  | [a] =>
    match chomping? a, indentDigit? a with
    | some c, _ => (⟨c, 0⟩, [])
    | _, some i => (⟨.clip, i⟩, [])
    | _, _ => ({}, cs)
  | [] => ({}, [])

/-- Drops blanks and a comment. -/
def skipRemark (cs : List Char) : List Char :=
  match cs.dropWhile isSpace with
  | '#' :: rest => rest.dropWhile fun c => !isBreak c
  | rest => rest

/-- The end of a line, if nothing but a comment is left on it. -/
def lineEnd? (cs : List Char) : Option (List Char) :=
  match skipRemark cs with
  | [] => some []
  | c :: rest => if isBreak c then some rest else none

/-- What stands in front of the next line of a block that is not empty. -/
structure Lead where
  /-- The line breaks before it. -/
  breaks : List Char
  /-- The deepest indentation so far. -/
  deepest : Nat
  /-- The indentation of the line itself, as far as it was passed over. -/
  column : Nat
  /-- The line, behind its indentation. -/
  rest : List Char

/-- Passes over empty lines and over indentation, up to a margin if there is one (zero is none). -/
def lead? (margin deepest : Nat) (cs : List Char) : Option Lead :=
  let blanks := (cs.takeWhile (· == ' ')).length
  let column := if margin == 0 then blanks else min margin blanks
  let deepest := max deepest column
  match _h : cs.drop column with
  | [] => some ⟨[], deepest, column, []⟩
  | c :: rest =>
    if c == '\t' && (margin == 0 || column < margin) then none
    else if isBreak c then (lead? margin deepest rest).map fun l => { l with breaks := c :: l.breaks }
    else some ⟨[], deepest, column, c :: rest⟩
termination_by cs.length
decreasing_by
  have := congrArg List.length _h
  simp only [List.length_drop, List.length_cons] at this
  omega

/-- The lines of a block from a place on: the text, and what follows it. `before` is the break that
ended the line before, and `wasBlank` tells whether that line began with a blank. The count bounds
the number of lines. -/
def blockLines? (keepsLines : Bool) (chomping : Chomping) (margin : Nat) :
    Nat → Option Char → Bool → Lead → Option (List Char × Lead)
  | 0, _, _, _ => none
  | n + 1, before, wasBlank, l =>
    if l.column == margin && !l.rest.isEmpty then do
      let isBlank := l.rest.head?.any isSpace
      let joined :=
        if !keepsLines && before == some '\n' && !wasBlank && !isBlank then
          if l.breaks.isEmpty then [' '] else []
        else before.toList
      let line := l.rest.takeWhile fun c => !isBreak c
      let rest := l.rest.drop line.length
      let next ← lead? margin 0 (rest.drop 1)
      let (text, last) ← blockLines? keepsLines chomping margin n rest.head? isBlank next
      return (joined ++ l.breaks ++ line ++ text, last)
    else
      some (match chomping with
        | .strip => []
        | .clip => before.toList
        | .keep => before.toList ++ l.breaks, l)

/-- A block of text behind its mark, in a block that has a margin. -/
def block? (keepsLines : Bool) (margin : Nat) (cs : List Char) :
    Option (List Char × List Char) := do
  let (h, rest) := heading cs
  let body ← lineEnd? rest
  let said := if h.indent == 0 then 0 else (margin - 1) + h.indent
  let first ← lead? said 0 body
  let inner := if said == 0 then max (max first.deepest margin) 1 else said
  let (text, last) ← blockLines? keepsLines h.chomping inner (body.length + 1) none false first
  return (text, last.rest)

end Tutor.Yaml
