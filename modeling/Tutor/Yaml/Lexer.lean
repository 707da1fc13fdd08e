import Tutor.Yaml.Token

/-!
# From text to tokens

Two things make a YAML text hard to cut into tokens. Blocks are told by indentation: the margins of
the open blocks are kept on a stack. And a mapping has no mark in front of its keys: whatever might
be a key is remembered, and the tokens in front of it are put in once its colon is found. A key must
end on the line where it begins, and within 1024 characters.
-/

namespace Tutor.Yaml

open Tutor.Text

/-- Something that might be a key. -/
structure Candidate where
  /-- Whether it stands where only a key may stand. -/
  required : Bool
  /-- The number of tokens before it. -/
  number : Nat
  /-- Where it begins. -/
  start : Cursor

/-- What was read of a text. A margin is the first column to the right of a block's indentation. -/
structure Lexer where
  /-- The place that was reached. -/
  cursor : Cursor
  /-- The margins of the open blocks, innermost first. -/
  margins : List Nat := []
  /-- Whether a key may begin here. -/
  keyAllowed : Bool := true
  /-- What might be a key, for every open collection in brackets or braces, and outside of all. -/
  candidates : List (Option Candidate) := [none]
  /-- The tokens so far. -/
  tokens : Array Token := #[]

namespace Lexer

/-- Whether the place is inside of brackets or braces. -/
def inFlow (l : Lexer) : Bool := 1 < l.candidates.length

/-- The margin of the innermost block, zero outside of all. -/
def margin (l : Lexer) : Nat := l.margins.head?.getD 0

/-- What follows. -/
def rest (l : Lexer) : List Char := l.cursor.rest

/-- Adds a token. -/
def push (l : Lexer) (t : Token) : Lexer := { l with tokens := l.tokens.push t }

/-- Puts a token in after the first `n`. -/
def insert (l : Lexer) (n : Nat) (t : Token) : Lexer :=
  { l with tokens := (l.tokens.extract 0 n).push t ++ l.tokens.extract n l.tokens.size }

/-- Passes over some characters. -/
def advance (l : Lexer) (n : Nat) : Lexer := { l with cursor := l.cursor.advance n }

/-- Passes over everything up to the end of the text that is left. -/
def skipTo (l : Lexer) (rest : List Char) : Lexer := { l with cursor := l.cursor.skipTo rest }

/-- Sets whether a key may begin. -/
def allowing (l : Lexer) (b : Bool) : Lexer := { l with keyAllowed := b }

/-! ### Blocks -/

/-- Closes the blocks whose margin is to the right of a column. Inside of brackets or braces none
ends. -/
def closeBlocks (l : Lexer) (margin : Nat) : Lexer :=
  if l.inFlow then l
  else
    let closed := l.margins.takeWhile (margin < ·)
    { l with
      margins := l.margins.drop closed.length
      tokens := l.tokens ++ Array.replicate closed.length .blockEnd }

/-- Opens a block at a column if it is to the right of the block around it. Its token goes in after
the first `n` tokens. -/
def openBlock (l : Lexer) (column n : Nat) (t : Token) : Lexer :=
  if !l.inFlow && l.margin ≤ column then
    { l.insert n t with margins := (column + 1) :: l.margins }
  else l

/-- Opens a block here. -/
def openHere (l : Lexer) (t : Token) : Lexer := l.openBlock l.cursor.column l.tokens.size t

/-! ### Keys -/

/-- Gives up what might have been a key, unless it had to be one. -/
def forgetKey (l : Lexer) : Option Lexer :=
  match l.candidates with
  | some k :: _ =>
    if k.required then none else some { l with candidates := none :: l.candidates.tail }
  | _ => some l

/-- Remembers that a key may begin here. -/
def offerKey (l : Lexer) : Option Lexer :=
  if l.keyAllowed then do
    let l ← l.forgetKey
    let k : Candidate :=
      { required := !l.inFlow && l.margin == l.cursor.column + 1
        number := l.tokens.size
        start := l.cursor }
    return { l with candidates := some k :: l.candidates.tail }
  else some l

/-- Whether something that began at a place can still be a key. -/
def isFresh (l : Lexer) (k : Candidate) : Bool :=
  k.start.line == l.cursor.line && l.cursor.index ≤ k.start.index + 1024

/-- Gives up what can no longer be a key. -/
def dropStale (l : Lexer) : Option Lexer := do
  let candidates ← l.candidates.mapM fun
    | none => some none
    | some k => if l.isFresh k then some (some k) else if k.required then none else some none
  return { l with candidates }

/-! ### Between tokens -/

/-- Passes over gaps and comments. The count bounds the number of lines. -/
def skipGaps : Nat → Lexer → Lexer
  | 0, l => l
  | n + 1, l =>
    let l := if l.cursor.column == 0 && l.rest.head? == some '\uFEFF' then l.advance 1 else l
    let tabs := l.inFlow || !l.keyAllowed
    let l := { l with cursor := l.cursor.skipWhile fun c => c == ' ' || (tabs && c == '\t') }
    let l :=
      if l.rest.head? == some '#' then
        { l with cursor := l.cursor.skipWhile fun c => !isBreak c }
      else l
    if l.rest.head?.any isBreak then
      skipGaps n { l.advance 1 with keyAllowed := l.keyAllowed || !l.inFlow }
    else l

/-! ### Tokens, by the character that begins them -/

/-- A number of at most nine digits, and what follows it. -/
def versionPart? (cs : List Char) : Option (Nat × List Char) :=
  let ds := cs.takeWhile Char.isDigit
  if ds.isEmpty || 9 < ds.length then none
  else (numeral? 10 ds).map fun n => (n, cs.drop ds.length)

/-- A directive behind its mark, and the lines that follow it. -/
def directive? (cs : List Char) : Option (Token × List Char) := do
  let name := cs.takeWhile isWordChar
  let rest := cs.drop name.length
  if !atGap rest then none
  let rest := rest.dropWhile isSpace
  let (token, rest) ←
    if name == "YAML".toList then do
      let (major, rest) ← versionPart? rest
      let '.' :: rest := rest | none
      let (minor, rest) ← versionPart? rest
      some (Token.version major minor, rest)
    else if name == "TAG".toList then do
      let (handle, rest) ← Tag.handle? rest
      if handle.length ≠ 1 && handle.getLast? ≠ some '!' then none
      if !rest.head?.any isSpace then none
      let (front, rest) ← Tag.part? true (rest.dropWhile isSpace)
      if front.isEmpty || !atGap rest then none
      some (Token.tagHandle (String.ofList handle) front, rest)
    else none
  return (token, ← lineEnd? rest)

/-- A name behind its mark, and what follows it. -/
def name? (cs : List Char) : Option (String × List Char) :=
  let name := cs.takeWhile isWordChar
  let rest := cs.drop name.length
  if name.isEmpty || !(atGap rest || rest.head?.any fun c => "?:,]\x7d%@\x60".toList.contains c)
  then none
  else some (String.ofList name, rest)

/-- A directive. -/
def lexDirective (l : Lexer) : Option Lexer := do
  let l ← (l.closeBlocks 0).forgetKey
  let (t, rest) ← directive? (l.rest.drop 1)
  return ((l.allowing false).skipTo rest).push t

/-- A line that separates documents. -/
def lexMarker (l : Lexer) (t : Token) : Option Lexer := do
  let l ← (l.closeBlocks 0).forgetKey
  return ((l.allowing false).advance 3).push t

/-- The beginning of a collection in brackets or braces. -/
def lexOpen (l : Lexer) (t : Token) : Option Lexer := do
  let l ← l.offerKey
  return (({ l with candidates := none :: l.candidates }.allowing true).advance 1).push t

/-- The end of a collection in brackets or braces. -/
def lexClose (l : Lexer) (t : Token) : Option Lexer := do
  let l ← l.forgetKey
  let l := if l.inFlow then { l with candidates := l.candidates.tail } else l
  return ((l.allowing false).advance 1).push t

/-- A comma. -/
def lexComma (l : Lexer) : Option Lexer := do
  let l ← l.forgetKey
  return ((l.allowing true).advance 1).push .comma

/-- The mark of an item. -/
def lexItem (l : Lexer) : Option Lexer := do
  if !l.inFlow && !l.keyAllowed then none
  let l ← (l.openHere .blockSequence).forgetKey
  return ((l.allowing true).advance 1).push .item

/-- The mark of a key. -/
def lexKey (l : Lexer) : Option Lexer := do
  if !l.inFlow && !l.keyAllowed then none
  let l ← (l.openHere .blockMapping).forgetKey
  return ((l.allowing !l.inFlow).advance 1).push .key

/-- The mark of a value. What might have been a key is one now. -/
def lexValue (l : Lexer) : Option Lexer :=
  match l.candidates with
  | some k :: others =>
    let l := (l.insert k.number .key).openBlock k.start.column k.number .blockMapping
    some ((({ l with candidates := none :: others }.allowing false).advance 1).push .value)
  | _ => do
    if !l.inFlow && !l.keyAllowed then none
    let l := l.openHere .blockMapping
    return ((l.allowing !l.inFlow).advance 1).push .value

/-- An anchor or a reference to one. -/
def lexName (l : Lexer) (token : String → Token) : Option Lexer := do
  let l ← l.offerKey
  let (name, rest) ← name? (l.rest.drop 1)
  return ((l.allowing false).skipTo rest).push (token name)

/-- A tag. -/
def lexTag (l : Lexer) : Option Lexer := do
  let l ← l.offerKey
  let (t, rest) ← Tag.read? l.rest
  if !(atGap rest || (l.inFlow && rest.head? == some ',')) then none
  return ((l.allowing false).skipTo rest).push (.tag t)

/-- A block of text. -/
def lexBlock (l : Lexer) (style : Style) : Option Lexer := do
  let l ← l.forgetKey
  let (text, rest) ← block? (style == .literal) l.margin (l.rest.drop 1)
  return ((l.allowing true).skipTo rest).push (.scalar style (String.ofList text))

/-- Text in quotes. -/
def lexQuoted (l : Lexer) (read? : List Char → Option (List Char × List Char)) :
    Option Lexer := do
  let l ← l.offerKey
  let (text, rest) ← read? (l.rest.drop 1)
  return ((l.allowing false).skipTo rest).push (.scalar .quoted (String.ofList text))

/-- Bare text. -/
def lexBare (l : Lexer) : Option Lexer := do
  let l ← l.offerKey
  let s ← bare? l.inFlow l.margin (l.rest.length + 1) l.cursor
  return { l with cursor := s.after, keyAllowed := s.crossed }.push
    (.scalar .plain (String.ofList s.text))

/-- A token. -/
def lexToken (l : Lexer) : Option Lexer :=
  match l.rest with
  | [] => none
  | c :: rest =>
    if l.cursor.column == 0 && c == '%' then l.lexDirective
    else if l.cursor.column == 0 && atMarker l.rest then
      l.lexMarker (if c == '-' then .documentStart else .documentEnd)
    else if c == '[' then l.lexOpen .openSequence
    else if c == '\x7b' then l.lexOpen .openMapping
    else if c == ']' then l.lexClose .closeSequence
    else if c == '\x7d' then l.lexClose .closeMapping
    else if c == ',' then l.lexComma
    else if c == '-' && atGap rest then l.lexItem
    else if c == '?' && (l.inFlow || atGap rest) then l.lexKey
    else if c == ':' && (l.inFlow || atGap rest) then l.lexValue
    else if c == '*' then l.lexName .alias
    else if c == '&' then l.lexName .anchor
    else if c == '!' then l.lexTag
    else if c == '|' && !l.inFlow then l.lexBlock .literal
    else if c == '>' && !l.inFlow then l.lexBlock .folded
    else if c == '\x27' then l.lexQuoted singleQuoted?
    else if c == '"' then l.lexQuoted doubleQuoted?
    else if isGap c || "%@\x60|>".toList.contains c then none
    else l.lexBare

/-- All tokens. The count bounds their number. -/
def lexAll : Nat → Lexer → Option (List Token)
  | 0, _ => none
  | n + 1, l => do
    let l ← (skipGaps (l.rest.length + 1) l).dropStale
    let l := l.closeBlocks (l.cursor.column + 1)
    if l.rest.isEmpty then return (← (l.closeBlocks 0).forgetKey).tokens.toList
    lexAll n (← l.lexToken)

end Lexer

/-- The tokens of a text, unless it cannot be cut into some. -/
def tokensOf? (s : String) : Option (List Token) :=
  if s.toList.all isPrintable then
    let cs := withPlainBreaks s.toList
    Lexer.lexAll (cs.length + 1) { cursor := { rest := cs } }
  else none

end Tutor.Yaml
