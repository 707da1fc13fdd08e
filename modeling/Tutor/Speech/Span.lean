import Tutor.Text.Blank

/-!
# Spans of a text

A speech service takes short texts only, so an answer is cut into spans. A text falls into units,
each ending with its run of sentence marks. Units that fit are packed greedily, one space between
them; a unit that is too long for a span of its own is packed word by word. Words are never cut: one
that is longer than the limit becomes a span by itself. Lengths count characters.
-/

namespace Tutor.Speech

open Tutor.Text

/-- The marks that end a sentence. -/
def isSentenceMark (c : Char) : Bool := c == '.' || c == '!' || c == '?'

/-- Cuts a text after every run of sentence marks that something else follows. -/
def units (cs : List Char) : List (List Char) :=
  match cs with
  | [] => []
  | c :: rest =>
    let body := (c :: rest).takeWhile (fun d => !isSentenceMark d)
    let tail := (c :: rest).dropWhile (fun d => !isSentenceMark d)
    (body ++ tail.takeWhile isSentenceMark) :: units (tail.dropWhile isSentenceMark)
termination_by cs.length
decreasing_by
  by_cases hc : isSentenceMark c
  · simp only [List.dropWhile_cons, hc, Bool.not_true, Bool.false_eq_true, if_false, if_true]
    exact Nat.lt_succ_of_le (length_dropWhile_le _ rest)
  · simp only [List.dropWhile_cons, hc, Bool.not_false, if_true]
    exact Nat.lt_succ_of_le (Nat.le_trans (length_dropWhile_le _ _) (length_dropWhile_le _ rest))

/-! ### Packing

The open span is the text gathered so far; it is empty when nothing has been gathered. -/

/-- The open span with `part` after it, one space between them. -/
def extend (current part : List Char) : List Char :=
  if current.isEmpty then part else current ++ ' ' :: part

/-- The open span as a list of finished spans. -/
def close (current : List Char) : List (List Char) :=
  if current.isEmpty then [] else [current]

/-- Finished spans, and the span still open. -/
structure Packing where
  /-- The spans that are finished, in order. -/
  done : List (List Char) := []
  /-- The span that may still grow. -/
  current : List Char := []

namespace Packing

/-- Whether `part` still fits into the open span. -/
def fits (limit : Nat) (p : Packing) (part : List Char) : Bool :=
  (extend p.current part).length ≤ limit

/-- Grows the open span by `part`. -/
def join (p : Packing) (part : List Char) : Packing :=
  { p with current := extend p.current part }

/-- Finishes the open span and opens one that holds `part`. -/
def restart (p : Packing) (part : List Char) : Packing :=
  { done := p.done ++ close p.current, current := part }

/-- Packs one word: it joins the open span if it fits, and opens a new one otherwise. -/
def word (limit : Nat) (p : Packing) (w : List Char) : Packing :=
  if p.fits limit w then p.join w else p.restart w

/-- Packs one trimmed unit. One that fits no span at all is packed word by word, after the open
span is finished. -/
def unit (limit : Nat) (p : Packing) (u : List Char) : Packing :=
  if p.fits limit u then p.join u
  else if u.length ≤ limit then p.restart u
  else (words u).foldl (word limit) (p.restart [])

/-- All spans, the open one last. -/
def spans (p : Packing) : List (List Char) := p.done ++ close p.current

end Packing

/-- The trimmed units of a text that are not blank. -/
def sentences (cs : List Char) : List (List Char) :=
  ((units cs).map trim).filter (fun u => !u.isEmpty)

/-- The spans of a text, on characters. A limit of zero counts as one. -/
def spansOf (limit : Nat) (cs : List Char) : List (List Char) :=
  ((sentences cs).foldl (Packing.unit (max limit 1)) {}).spans

/-- The spans of a text. -/
def segment (text : String) (limit : Nat) : List String :=
  (spansOf limit text.toList).map String.ofList

end Tutor.Speech
