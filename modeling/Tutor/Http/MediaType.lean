import Tutor.Http.Header
import Tutor.Text.Charset

/-!
# Media types

The type of a body: a type, a subtype with a suffix, and parameters. It is read from a header field
by the grammar of such fields.
-/

namespace Tutor.Http

open Tutor.Text

/-- A media type. All parts are in lower case but the values of parameters. -/
structure MediaType where
  /-- The type. -/
  kind : String
  /-- The subtype, up to its suffix. -/
  subtype : String
  /-- The suffix of the subtype. -/
  suffix : Option String
  /-- The parameters. -/
  params : List (String × String)
deriving DecidableEq, Repr

namespace MediaType

/-- The characters of a name. -/
def isTokenChar (c : Char) : Bool := c.isAlphanum || "!#$%&'*+-.^_\x60|~".toList.contains c

/-- A name at the front that is not empty, and the rest. -/
def token? (cs : List Char) : Option (List Char × List Char) :=
  let name := cs.takeWhile isTokenChar
  if name.isEmpty then none else some (name, cs.dropWhile isTokenChar)

/-- The characters of a quoted value up to a quote, and the rest. There are no escapes. -/
def quotedRest? : List Char → Option (List Char × List Char)
  | '"' :: rest => some ([], rest)
  | c :: rest =>
    if 0x20 ≤ c.toNat && c.toNat != 0x7F then
      (quotedRest? rest).map fun (v, r) => (c :: v, r)
    else none
  | [] => none

/-- A quoted value behind its opening quote, and the rest. The value is not empty, so that a quote at
its beginning belongs to it. -/
def quoted? : List Char → Option (List Char × List Char)
  | '"' :: rest => (quotedRest? rest).map fun (v, r) => ('"' :: v, r)
  | cs => quotedRest? cs

/-- Drops blanks. -/
def skipBlanks (cs : List Char) : List Char := cs.dropWhile (· == ' ')

/-- The value of a parameter, and what follows the semicolon behind it. Blanks may stand behind a
quoted value; one without quotes is empty only at the end. -/
def paramValue? : List Char → Option (List Char × List Char)
  | '"' :: rest => do
    let (value, rest) ← quoted? rest
    match skipBlanks rest with
    | [] => some (value, [])
    | ';' :: more => some (value, more)
    | _ => none
  | cs =>
    let value := cs.takeWhile isTokenChar
    match cs.dropWhile isTokenChar with
    | [] => some (value, [])
    | ';' :: more => if value.isEmpty then none else some (value, more)
    | _ => none

/-- Parameters with semicolons between them; blanks may stand in front of each. The count bounds how
many there are. -/
def params? : Nat → List Char → Option (List (String × String))
  | 0, _ => some []
  | n + 1, cs =>
    match skipBlanks cs with
    | [] => some []
    | cs => do
      let (name, rest) ← token? cs
      match rest with
      | '=' :: rest =>
        let (value, rest) ← paramValue? rest
        return (lowered (String.ofList name), String.ofList value) :: (← params? n rest)
      | _ => none

/-- A subtype and its suffix, behind the last plus sign that is not its first character. -/
def splitSuffix (cs : List Char) : List Char × Option (List Char) :=
  let suffix := (cs.reverse.takeWhile (· != '+')).reverse
  let front := cs.take (cs.length - suffix.length - 1)
  if front.isEmpty then (cs, none) else (front, some suffix)

/-- Reads a media type. Nothing but parameters may follow the subtype. -/
def ofText? (s : String) : Option MediaType := do
  let cs := s.toList
  let (kind, rest) ← token? cs
  match rest with
  | '/' :: rest =>
    let (sub, rest) ← token? rest
    let params ← match rest with
      | [] => some []
      | ';' :: rest => params? cs.length rest
      | _ => none
    let (subtype, suffix) := splitSuffix sub
    return {
      kind := lowered (String.ofList kind)
      subtype := lowered (String.ofList subtype)
      suffix := suffix.map fun s => lowered (String.ofList s)
      params }
  | _ => none

/-- Whether a body of this type is JSON. -/
def isJson (m : MediaType) : Bool :=
  m.kind == "application" && (m.subtype == "json" || m.suffix == some "json")

/-- The character set that the parameters name. -/
def charset (m : MediaType) : Charset :=
  match m.params.find? (·.1 == "charset") with
  | some (_, name) => Charset.ofName name
  | none => .utf8

end MediaType

/-- The media type that a header names. -/
def Header.mediaType? (h : Header) : Option MediaType := do
  MediaType.ofText? (← valueText? (← h.first? "content-type"))

end Tutor.Http
