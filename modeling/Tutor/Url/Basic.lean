import Tutor.Url.Host

/-!
# URLs

A URL in its parts, each in the form in which it is written: what has to be escaped is escaped, the
host is in ASCII, a port that goes without saying is left out. The path is a list of segments, or
opaque text in schemes that have no hierarchy.
-/

namespace Tutor.Url

open Tutor.Text

/-- The kinds of scheme. -/
inductive SchemeKind where
  /-- Files of the machine at hand. -/
  | file
  /-- The schemes that always have a host, with the port that goes without saying. -/
  | web (port : Nat)
  /-- All others. -/
  | other
deriving DecidableEq, Repr

/-- The kind of a scheme. -/
def kindOf (scheme : String) : SchemeKind :=
  if scheme == "file" then .file
  else if scheme == "http" || scheme == "ws" then .web 80
  else if scheme == "https" || scheme == "wss" then .web 443
  else if scheme == "ftp" then .web 21
  else .other

/-- Whether a kind of scheme fixes the form of hosts and paths. -/
def SchemeKind.isSpecial : SchemeKind → Bool
  | other => false
  | _ => true

/-- The port that goes without saying. -/
def SchemeKind.port? : SchemeKind → Option Nat
  | web p => some p
  | _ => none

/-- A path. -/
inductive Path where
  /-- Segments, each behind a slash. -/
  | segments (names : List String)
  /-- Text without structure. -/
  | opaqueText (text : String)
deriving DecidableEq, Repr

end Tutor.Url

namespace Tutor

open Tutor.Text Tutor.Url

/-- A URL. -/
structure Url where
  /-- The scheme, in lower case. -/
  scheme : String
  /-- The user name, empty if there is none. -/
  username : String := ""
  /-- The password, empty if there is none. -/
  password : String := ""
  /-- The host, where the scheme is followed by two slashes. -/
  host : Option Host := none
  /-- The port, unless it goes without saying. -/
  port : Option Nat := none
  /-- The path. -/
  path : Url.Path := .segments []
  /-- The query, without its mark. -/
  query : Option String := none
  /-- The fragment, without its mark. -/
  fragment : Option String := none
deriving DecidableEq, Repr

namespace Url

/-- The kind of the scheme. -/
def kind (u : Url) : SchemeKind := kindOf u.scheme

/-- The host as text, if there is one. -/
def hostText? (u : Url) : Option String := u.host.bind Host.text?

/-- The port, or the one that goes without saying. -/
def effectivePort? (u : Url) : Option Nat := u.port.or u.kind.port?

/-! ### Writing -/

/-- The user name and password in front of the host. -/
def credentialChars (u : Url) : List Char :=
  if u.username.isEmpty && u.password.isEmpty then []
  else
    u.username.toList ++ (if u.password.isEmpty then [] else ':' :: u.password.toList) ++ ['@']

/-- The part between the scheme and the path. -/
def authorityChars (u : Url) : List Char :=
  match u.host with
  | none => []
  | some h =>
    '/' :: '/' :: u.credentialChars ++ h.chars ++
      (match u.port with
        | some p => ':' :: digitsIn 10 p
        | none => [])

/-- The path. Without a host, a path must not begin with two slashes. -/
def pathChars (u : Url) : List Char :=
  match u.path with
  | .opaqueText t => t.toList
  | .segments names =>
    let text := names.flatMap fun n => '/' :: n.toList
    match u.host, names with
    | none, "" :: _ :: _ => '/' :: '.' :: text
    | _, _ => text

/-- A part behind its mark. -/
def marked (mark : Char) : Option String → List Char
  | some s => mark :: s.toList
  | none => []

/-- The characters of a URL up to its fragment. -/
def charsBeforeFragment (u : Url) : List Char :=
  u.scheme.toList ++ ':' :: u.authorityChars ++ u.pathChars ++ marked '?' u.query

/-- A URL as text. -/
def render (u : Url) : String :=
  String.ofList (u.charsBeforeFragment ++ marked '#' u.fragment)

/-- The URL as it is sent: without its fragment. -/
def withoutFragment (u : Url) : Url := { u with fragment := none }

/-- The URL without user name, password and fragment. -/
def withoutCredentials (u : Url) : Url :=
  { u with username := "", password := "", fragment := none }

/-- Appends pairs to the query. -/
def appendPairs (u : Url) (pairs : List (String × String)) : Url :=
  let added := joinWith ['&'] (pairs.map formPair)
  match u.query with
  | some q =>
    if q.isEmpty then { u with query := some (String.ofList added) }
    else { u with query := some (String.ofList (q.toList ++ '&' :: added)) }
  | none => { u with query := some (String.ofList added) }

/-- The pairs of the query. -/
def pairs (u : Url) : List (String × String) :=
  match u.query with
  | some q => formPairs q.toList
  | none => []

end Url

end Tutor
