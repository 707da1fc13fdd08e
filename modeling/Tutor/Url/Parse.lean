import Tutor.Url.Basic

/-!
# Reading URLs

A text is read as a URL on its own, or relative to another one. Blanks and controls at the ends are
dropped, and tabs and line breaks anywhere, except that a break behind a drive can end its segment.
Where the scheme is special, backslashes count as slashes and any number of them may stand before
the host.
-/

namespace Tutor.Url

open Tutor.Text

/-- The characters that are passed over. -/
def isBreak (c : Char) : Bool := c == '\t' || c == '\n' || c == '\r'

/-- The text without what is passed over. -/
def unbroken (cs : List Char) : List Char := cs.filter (!isBreak ·)

/-- The characters of a scheme behind its first. -/
def inScheme (c : Char) : Bool := c.isAlphanum || c == '+' || c == '-' || c == '.'

/-- A scheme and what follows its colon. -/
def scheme? (cs : List Char) : Option (String × List Char) := do
  let (before, rest) ← cutAt? (· == ':') cs
  match unbroken before with
  | c :: more =>
    if c.isAlpha && more.all inScheme then
      some (String.ofList ((c :: more).map Char.toLower), rest)
    else none
  | [] => none

/-- The slashes of a kind of scheme. -/
def isSlash (k : SchemeKind) (c : Char) : Bool := c == '/' || (k.isSpecial && c == '\\')

/-- What ends the part with the host. -/
def endsAuthority (k : SchemeKind) (c : Char) : Bool := isSlash k c || c == '?' || c == '#'

/-! ### Query and fragment -/

/-- What ends the path. -/
def endsPath (c : Char) : Bool := c == '?' || c == '#'

/-- The fragment behind its mark. -/
def fragmentOf (cs : List Char) : String := String.ofList (encode inFragment cs)

/-- The query behind its mark, up to the fragment. -/
def queryOf (k : SchemeKind) (cs : List Char) : String :=
  String.ofList (encode (inQuery k.isSpecial) (cs.takeWhile (· != '#')))

/-- Sets query and fragment from the text that follows the path. -/
def withTail (u : Url) (cs : List Char) : Url :=
  match cs with
  | '?' :: rest =>
    let q := queryOf u.kind rest
    match rest.dropWhile (· != '#') with
    | _ :: f => { u with query := some q, fragment := some (fragmentOf f) }
    | [] => { u with query := some q }
  | _ :: f => { u with fragment := some (fragmentOf f) }
  | [] => u

/-! ### Paths -/

/-- Whether a segment is a single dot, possibly escaped. -/
def isDot (seg : List Char) : Bool :=
  seg == ['.'] || sameLetters seg ['%', '2', 'e']

/-- Whether a segment is two dots, possibly escaped. -/
def isDotDot (seg : List Char) : Bool :=
  seg == ['.', '.'] || sameLetters seg ['.', '%', '2', 'e'] ||
    sameLetters seg ['%', '2', 'e', '.'] || sameLetters seg ['%', '2', 'e', '%', '2', 'e']

/-- Whether a segment names a drive. -/
def isDrive (seg : List Char) : Bool :=
  match seg with
  | [c, d] => c.isAlpha && (d == ':' || d == '|')
  | _ => false

/-- The segments without the last. A drive is never left. -/
def parent (names : List String) : List String :=
  match names.getLast? with
  | some n => if isDrive n.toList then names else names.dropLast
  | none => []

/-- What follows a drive and a break in the same segment. -/
def afterBrokenDrive? (seg : List Char) : Option (List Char) :=
  match unbroken seg, (seg.dropWhile (· != ':')).drop 1 with
  | a :: ':' :: c :: rest, b :: _ => if a.isAlpha && isBreak b then some (c :: rest) else none
  | _, _ => none

/-- How far a path has been followed. -/
structure Trail where
  /-- The segments so far. -/
  names : List String := []
  /-- Whether the path turned out to begin with a drive of the machine at hand. -/
  onDrive : Bool := false
deriving DecidableEq, Repr

namespace Trail

/-- A segment added as it stands. -/
def add (t : Trail) (seg : List Char) : Trail :=
  { t with names := t.names ++ [String.ofList (encode inPath seg)] }

/-- The empty segment that a path ends with if it ends with a slash or dots. -/
def close (t : Trail) (isLast : Bool) : Trail := if isLast then t.add [] else t

/-- Follows a path by one segment. Dots move, and leave an empty segment if they come last. The
first segment of a file's path may name a drive; a break ends it, and then the rest of the segment
is taken as it stands. -/
def follow (k : SchemeKind) (t : Trail) (seg : List Char) (isLast : Bool) : Trail :=
  let isFirst := k == .file && t.names.isEmpty
  let text := unbroken seg
  match if isFirst then afterBrokenDrive? seg else none with
  | some rest => (t.add (text.take 2)).add rest
  | none =>
    if isDotDot text then close { t with names := parent t.names } isLast
    else if isDot text then close t isLast
    else if isFirst && isDrive text then { add t (text.take 1 ++ [':']) with onDrive := true }
    else t.add text

/-- Follows a path by all segments. -/
def followAll (k : SchemeKind) : Trail → List (List Char) → Trail
  | t, [] => t
  | t, seg :: more => followAll k (t.follow k seg more.isEmpty) more

end Trail

/-- The path of a file has no empty segments in front. -/
def withoutEmptyFront (names : List String) : List String :=
  match names.dropWhile (·.isEmpty) with
  | [] => [""]
  | names => names

/-- Goes on from some segments by a path text, without the slash in front of it. -/
def trailFrom (k : SchemeKind) (names : List String) (cs : List Char) : Trail :=
  let t := Trail.followAll k { names } (splitWhere (isSlash k) cs)
  match k with
  | .file => { t with names := withoutEmptyFront t.names }
  | _ => t

/-- The path of a URL, from some segments on. -/
def pathFrom (k : SchemeKind) (names : List String) (cs : List Char) : Path :=
  .segments (trailFrom k names cs).names

/-- The text up to the end of the path. -/
def beforeTail (cs : List Char) : List Char := cs.takeWhile fun c => !endsPath c

/-- The text from the end of the path on. -/
def tailOf (cs : List Char) : List Char := unbroken (cs.dropWhile fun c => !endsPath c)

/-- The path text behind a host, without the slash in front of it. -/
def belowHost (k : SchemeKind) (cs : List Char) : List Char :=
  match cs with
  | c :: rest => if isSlash k c then rest else cs
  | [] => []

/-- Sets path, query and fragment from the text that follows a host. -/
def withPath (u : Url) (cs : List Char) : Url :=
  let text := beforeTail cs
  let path := if text.isEmpty && !u.kind.isSpecial then .segments []
    else pathFrom u.kind [] (belowHost u.kind text)
  withTail { u with path } (tailOf cs)

/-! ### Hosts -/

/-- User name and password, in front of the last at sign. -/
def splitCredentials (cs : List Char) : Option (List Char) × List Char :=
  let host := (cs.reverse.takeWhile (· != '@')).reverse
  if host.length == cs.length then (none, cs)
  else (some (cs.take (cs.length - host.length - 1)), host)

/-- Sets user name and password. -/
def withCredentials (u : Url) (cs : List Char) : Url :=
  match cutAt? (· == ':') cs with
  | some (name, password) =>
    { u with
      username := String.ofList (encode inCredentials name)
      password := String.ofList (encode inCredentials password) }
  | none => { u with username := String.ofList (encode inCredentials cs) }

/-- The host, up to the first colon outside of brackets, and the rest. -/
def splitHost (bracketed : Bool) : List Char → List Char × List Char
  | [] => ([], [])
  | c :: cs =>
    if c == ':' && !bracketed then ([], c :: cs)
    else
      let r := splitHost (if c == '[' then true else if c == ']' then false else bracketed) cs
      (c :: r.1, r.2)

/-- The port behind its colon; an empty one is none. -/
def portOf (cs : List Char) : Except Problem (Option Nat) :=
  match numeral? 10 cs with
  | some n => if 65535 < n then .error .invalidPort else .ok (if cs.isEmpty then none else some n)
  | none => .error .invalidPort

/-- The host of a kind of scheme. -/
def hostOf (k : SchemeKind) (cs : List Char) : Except Problem Host :=
  if k.isSpecial then (if cs.isEmpty then .error .emptyHost else Host.ofChars cs)
  else Host.opaqueOfChars cs

/-- A URL from the text behind the two slashes of its scheme. -/
def ofAuthority (scheme : String) (cs : List Char) : Except Problem Url := do
  let k := kindOf scheme
  let authority := cs.takeWhile fun c => !endsAuthority k c
  let rest := cs.dropWhile fun c => !endsAuthority k c
  let (credentials, server) := splitCredentials authority
  if credentials == some [] && server.isEmpty && !rest.isEmpty then .error .emptyHost
  let (hostChars, portChars) := splitHost false server
  let host ← hostOf k hostChars
  if host == .empty && (!portChars.isEmpty || !(credentials.getD []).isEmpty) then .error .emptyHost
  let digits := portChars.drop 1
  let port ← portOf (digits.takeWhile (· != '\\'))
  let u : Url := { scheme, host := some host, port := if port == k.port? then none else port }
  return withPath (withCredentials u (credentials.getD [])) (digits.dropWhile (· != '\\') ++ rest)

/-! ### Files -/

/-- Whether a text begins with a drive and nothing else in its first segment. -/
def beginsWithDrive (cs : List Char) : Bool :=
  match cs with
  | c :: d :: rest =>
    isDrive [c, d] &&
      (match rest with
        | [] => true
        | e :: _ => endsAuthority .file e)
  | _ => false

/-- The host of a file. The machine at hand goes without saying. -/
def fileHostOf (cs : List Char) : Except Problem Host := do
  if cs.isEmpty then return .empty
  let h ← Host.ofChars cs
  return if h == .name "localhost" then .empty else h

/-- A file on a host, from the text behind the host. Without a host, the slash in front of the path
belongs to it, so that the path begins with an empty segment and not with a drive. With a host, a
path that begins with a drive leads back to the machine at hand. -/
def onHost (host : Host) (cs : List Char) : Url :=
  let text := beforeTail cs
  let t := trailFrom .file [] (if host == .empty then text else belowHost .file text)
  withTail { scheme := "file", host := some (if t.onDrive then .empty else host),
             path := .segments t.names } (tailOf cs)

/-- A file from a path that begins at the root, on the drive or the host of a base. -/
def ofRoot (base : Option Url) (cs : List Char) : Url :=
  let drive := match base.map (·.path) with
    | some (.segments (n :: _)) => if isDrive n.toList then [n] else []
    | _ => []
  let startsAnew := beginsWithDrive (unbroken cs)
  let host := if startsAnew || !drive.isEmpty then .empty
    else ((base.bind (·.host)).getD .empty)
  withTail { scheme := "file", host := some host,
             path := pathFrom .file (if startsAnew then [] else drive) (beforeTail cs) } (tailOf cs)

/-- A file from a path that begins where the base lies. -/
def beside (b : Url) (cs : List Char) : Url :=
  let bare : Url := { b with query := none, fragment := none }
  match unbroken cs with
  | [] => b.withoutFragment
  | '#' :: rest => withTail b.withoutFragment ('#' :: rest)
  | '?' :: rest => withTail bare ('?' :: rest)
  | text =>
    if beginsWithDrive text then onHost .empty cs
    else
      let names := match b.path with
        | .segments ns => parent ns
        | .opaqueText _ => []
      withTail { bare with path := pathFrom .file names (beforeTail cs) } (tailOf cs)

/-- A file from the text behind its scheme, with the base if that is a file. -/
def ofFile (base : Option Url) (cs : List Char) : Except Problem Url := do
  match slashed? cs with
  | none =>
    match base with
    | some b => return beside b cs
    | none => return onHost .empty cs
  | some rest =>
    match slashed? rest with
    | none => return ofRoot base rest
    | some rest =>
      let name := unbroken (rest.takeWhile fun c => !endsAuthority .file c)
      if isDrive name then return onHost .empty rest
      let host ← fileHostOf name
      return onHost host (rest.dropWhile fun c => !endsAuthority .file c)
where
  /-- What follows a slash in front. -/
  slashed? (cs : List Char) : Option (List Char) :=
    match cs.dropWhile isBreak with
    | c :: rest => if isSlash .file c then some rest else none
    | [] => none

/-! ### Whole texts -/

/-- A text without a scheme, relative to a base with segments. -/
def ofRelative (base : Url) (cs : List Char) : Except Problem Url :=
  let k := base.kind
  let names := match base.path with
    | .segments ns => ns
    | .opaqueText _ => []
  let bare : Url := { base with query := none, fragment := none }
  match cs with
  | [] => .ok base.withoutFragment
  | '?' :: _ => .ok (withTail bare cs)
  | '#' :: _ => .ok (withTail base.withoutFragment cs)
  | c :: rest =>
    let path := beforeTail cs
    let tail := tailOf cs
    if isSlash k c then
      match rest with
      | d :: more =>
        if isSlash k d then
          ofAuthority base.scheme (if k.isSpecial then more.dropWhile (isSlash k) else more)
        else .ok (withTail { bare with path := pathFrom k [] (path.drop 1) } tail)
      | [] => .ok (withTail { bare with path := pathFrom k [] [] } tail)
    else .ok (withTail { bare with path := pathFrom k names.dropLast path } tail)

/-- A URL of a scheme without rules of its own, from the text behind the scheme. -/
def ofOther (scheme : String) (cs : List Char) : Except Problem Url :=
  match cs with
  | '/' :: '/' :: rest => ofAuthority scheme rest
  | '/' :: _ => .ok (withPath { scheme } cs)
  | _ =>
    let text := encode inOpaque (beforeTail cs)
    .ok (withTail { scheme, path := .opaqueText (String.ofList text) } (tailOf cs))

/-- A URL from the text behind its scheme. One or no slash behind a special scheme continues a base
of the same scheme. -/
def ofScheme (base : Option Url) (scheme : String) (cs : List Char) : Except Problem Url :=
  match kindOf scheme with
  | .file => ofFile (base.filter (·.scheme == "file")) cs
  | .other => ofOther scheme (unbroken cs)
  | .web p =>
    let text := unbroken cs
    let slashes := text.takeWhile (isSlash (.web p))
    match base with
    | some b =>
      if slashes.length < 2 && b.scheme == scheme then ofRelative b text
      else ofAuthority scheme (text.dropWhile (isSlash (.web p)))
    | none => ofAuthority scheme (text.dropWhile (isSlash (.web p)))

/-- A text as a URL, relative to a base if there is one, on characters. -/
def ofChars (base : Option Url) (cs : List Char) : Except Problem Url :=
  let text := strip (fun c => c.toNat ≤ 0x20) cs
  match scheme? text with
  | some (scheme, rest) => ofScheme base scheme rest
  | none =>
    match base with
    | none => .error .relativeWithoutBase
    | some b =>
      match b.path, unbroken text with
      | .opaqueText _, '#' :: rest => .ok (withTail b.withoutFragment ('#' :: rest))
      | .opaqueText _, _ => .error .opaqueBase
      | .segments _, whole => if b.kind == .file then ofFile (some b) text else ofRelative b whole

/-- A text as a URL on its own. -/
def ofText (s : String) : Except Problem Url := ofChars none s.toList

/-- A text as a URL relative to another. -/
def resolve (base : Url) (s : String) : Except Problem Url := ofChars (some base) s.toList

end Tutor.Url
