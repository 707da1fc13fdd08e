import Tutor.Url.Percent
import Tutor.Yaml.Cursor

/-!
# Tags

A tag names the type of a value: by a handle that directives may define and a suffix, or as a whole
between angle brackets.
-/

namespace Tutor.Yaml

open Tutor.Text

/-- A tag as it is written. An empty handle goes with a tag that is written as a whole. -/
structure Tag where
  /-- The handle. -/
  handle : String
  /-- What follows the handle. -/
  suffix : String
deriving DecidableEq, Repr

namespace Tag

/-- The tag of whole numbers. -/
def int : String := "tag:yaml.org,2002:int"

/-- The tag of other numbers. -/
def float : String := "tag:yaml.org,2002:float"

/-- The tag of truth values. -/
def bool : String := "tag:yaml.org,2002:bool"

/-- The tag of nothing. -/
def null : String := "tag:yaml.org,2002:null"

/-- The handles that need no directive. -/
def defaults : List (String × String) := [("!", "!"), ("!!", "tag:yaml.org,2002:")]

/-- The characters of a tag; marks of collections only where it is written as a whole. -/
def isTagChar (whole : Bool) (c : Char) : Bool :=
  isWordChar c || ";/?:@&=+$.!~*'()%".toList.contains c || (whole && ",[]".toList.contains c)

/-- Whether every percent sign begins an escape. -/
def escapesAreWhole : List Char → Bool
  | [] => true
  | '%' :: a :: b :: rest =>
    (digitIn? 16 a).isSome && (digitIn? 16 b).isSome && escapesAreWhole rest
  | '%' :: _ => false
  | _ :: rest => escapesAreWhole rest

/-- The text of a tag, or of a part of one, and what follows it. -/
def part? (whole : Bool) (cs : List Char) : Option (String × List Char) := do
  let run := cs.takeWhile (isTagChar whole)
  if !escapesAreWhole run then none
  return (← text? (Url.decodeBytes run), cs.drop run.length)

/-- A handle, with the mark at its end if it has one, and what follows it. -/
def handle? : List Char → Option (List Char × List Char)
  | '!' :: rest =>
    let word := rest.takeWhile isWordChar
    match rest.drop word.length with
    | '!' :: after => some ('!' :: word ++ ['!'], after)
    | after => some ('!' :: word, after)
  | _ => none

/-- A tag, and what follows it. -/
def read? (cs : List Char) : Option (Tag × List Char) := do
  match cs with
  | '!' :: '<' :: rest =>
    let (suffix, rest) ← part? true rest
    match rest with
    | '>' :: rest => if suffix.isEmpty then none else some (⟨"", suffix⟩, rest)
    | _ => none
  | _ =>
    let (handle, rest) ← handle? cs
    if 1 < handle.length && handle.getLast? == some '!' then
      let (suffix, rest) ← part? false rest
      if suffix.isEmpty then none else some (⟨String.ofList handle, suffix⟩, rest)
    else
      let (suffix, rest) ← part? false (handle.drop 1 ++ rest)
      some (if suffix.isEmpty then ⟨"", "!"⟩ else ⟨"!", suffix⟩, rest)

/-- The tag in full, given what handles stand for. -/
def expand? (known : List (String × String)) (t : Tag) : Option String :=
  if t.handle.isEmpty then some t.suffix
  else (known.find? (·.1 == t.handle)).map fun (_, front) => front ++ t.suffix

end Tag

end Tutor.Yaml
