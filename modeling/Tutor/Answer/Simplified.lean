import Tutor.Text.Blank
import Tutor.Text.Letter

/-!
# Summary and example

A language model that is asked for a summary and an example does not always keep to the layout it
was asked for. Three layouts are tried in order and the first that applies wins: blocks apart by a
blank line, plain lines, and the word "example" somewhere in the text. A text in none of them is all
summary.
-/

namespace Tutor.Answer

open Tutor.Text

/-- What was found in a follow-up answer. -/
structure Simplified where
  /-- The short restatement. -/
  summary : Option String := none
  /-- The example. -/
  illustration : Option String := none
deriving DecidableEq, Repr

/-! ### Blocks

A blank line is a line break, any blank characters, and another line break. It reaches as far as it
can: to the last line break of the run of blanks it begins. -/

/-- What follows the blank line that the line break just read begins, if it begins one. -/
def afterBlankLine? (rest : List Char) : Option (List Char) :=
  let run := rest.takeWhile isBlank
  if run.contains '\n' then
    some ((run.reverse.takeWhile (· != '\n')).reverse ++ rest.dropWhile isBlank)
  else none

theorem length_of_afterBlankLine? {rest r : List Char} (h : afterBlankLine? rest = some r) :
    r.length ≤ rest.length := by
  simp only [afterBlankLine?] at h
  split at h
  · obtain rfl := Option.some.inj h
    have h1 := (List.takeWhile_prefix (· != '\n') (l := (rest.takeWhile isBlank).reverse)).length_le
    have h2 := congrArg List.length (List.takeWhile_append_dropWhile (p := isBlank) (l := rest))
    simp only [List.length_append, List.length_reverse] at *
    omega
  · exact absurd h (by simp)

/-- Puts a character in front of the first block. -/
def prependToFirst (c : Char) : List (List Char) → List (List Char)
  | [] => [[c]]
  | b :: bs => (c :: b) :: bs

/-- The blocks of a text, between its blank lines. -/
def blocks (cs : List Char) : List (List Char) :=
  match cs with
  | [] => [[]]
  | c :: rest =>
    match _h : if c = '\n' then afterBlankLine? rest else none with
    | some after => [] :: blocks after
    | none => prependToFirst c (blocks rest)
termination_by cs.length
decreasing_by
  · split at _h
    · exact Nat.lt_succ_of_le (length_of_afterBlankLine? _h)
    · exact absurd _h (by simp)
  · simp

/-! ### The three layouts -/

/-- Summary and example apart by a blank line: the first block, and all others. -/
def ofBlocks? (cs : List Char) : Option Simplified :=
  match blocks cs with
  | first :: second :: more =>
    some
      { summary := nonEmpty? (trim first)
        illustration := nonEmpty? (trim (joinWith ['\n', '\n'] (second :: more))) }
  | _ => none

/-- At least two lines that are not blank: the first two, and the others. -/
def ofLines? (cs : List Char) : Option Simplified :=
  match ((splitWhere (· == '\n') cs).map trim).filter (fun l => !l.isEmpty) with
  | first :: second :: more =>
    some
      { summary := nonEmpty? (joinWith [' '] [first, second])
        illustration := nonEmpty? (joinWith [' '] more) }
  | _ => none

/-- The word "example" begins the example. -/
def ofKeyword? (cs : List Char) : Option Simplified :=
  (findWord? "example".toList cs).map fun (before, found) =>
    { summary := nonEmpty? (trim before), illustration := nonEmpty? (trim found) }

/-- Summary and example of a text, on characters. -/
def simplifiedOf (cs : List Char) : Simplified :=
  let text := trim cs
  if text.isEmpty then {}
  else
    match ofBlocks? text <|> ofLines? text <|> ofKeyword? text with
    | some found => found
    | none => { summary := some (String.ofList text) }

/-- Summary and example of a follow-up answer. -/
def Simplified.ofText (text : String) : Simplified := simplifiedOf text.toList

end Tutor.Answer
