import Tutor.Url.Basic

/-!
# Addresses

Before a client follows a redirect, it writes the URL out and reads it once more as an address, by
rules of its own. They are stricter than those for URLs: what stands between the scheme and the path
has fewer characters to choose from, a URL without two slashes is taken for a server with nothing
around it, and there is a limit to the length.
-/

namespace Tutor.Http

/-- The longest address. -/
def mostAddressChars : Nat := 65534

/-- The longest scheme of an address. -/
def mostSchemeChars : Nat := 64

/-- The colons that may stand in a row of groups. -/
def mostColons : Nat := 8

/-- The characters of a server with its user and its port. A percent sign may stand in the user. -/
def isAuthorityChar (c : Char) : Bool := c.isAlphanum || "!$&'()*+,-.;=_~".toList.contains c

/-- The characters that end a server. -/
def endsAuthority (c : Char) : Bool := c == '/' || c == '?' || c == '#'

/-- The characters of a path. -/
def isPathChar (c : Char) : Bool :=
  c.isAlphanum || "!$%&'()*+,-./:;=@[\\]^_|~\"\x7b\x7d".toList.contains c

/-- The characters of a query. -/
def isQueryChar (c : Char) : Bool := (isPathChar c && c != '"') || c == '?' || c == '\x60'

/-- What was seen of a server so far. -/
structure Seen where
  /-- The colons behind the user and behind brackets. -/
  colons : Nat := 0
  /-- Whether a bracket was opened. -/
  opened : Bool := false
  /-- Whether it was closed. -/
  closed : Bool := false
  /-- Whether there was a percent sign behind the user and behind brackets. -/
  percent : Bool := false
  /-- Whether a user ends here. -/
  user : Bool := false
deriving DecidableEq, Repr

namespace Seen

/-- Sees one character more, if it may stand there. -/
def see? (s : Seen) : Char → Option Seen
  | ':' =>
    if s.colons < mostColons then some { s with colons := s.colons + 1, user := false } else none
  | '[' => if s.percent || s.opened then none else some { s with opened := true, user := false }
  | ']' =>
    if s.opened && !s.closed then
      some { s with colons := 0, closed := true, percent := false, user := false }
    else none
  | '@' => some { s with colons := 0, percent := false, user := true }
  | '%' => some { s with percent := true, user := false }
  | c => if isAuthorityChar c then some { s with user := false } else none

/-- Whether what was seen is a whole server. -/
def isWhole (s : Seen) : Bool :=
  s.opened == s.closed && s.colons ≤ 1 && !s.percent && !s.user

/-- What follows the server at the front of a text, if there is one. It may be empty. -/
def after? (s : Seen) : List Char → Option (List Char)
  | [] => if s.isWhole then some [] else none
  | c :: cs =>
    if endsAuthority c then (if s.isWhole then some (c :: cs) else none)
    else (s.see? c).bind (after? · cs)

end Seen

/-- Whether a text is a path with a query. What follows a hash is not looked at. -/
def isPathAndQuery (cs : List Char) : Bool :=
  let text := cs.takeWhile (· != '#')
  (text.takeWhile (· != '?')).all isPathChar && (text.dropWhile (· != '?')).all isQueryChar

/-- Whether a URL is an address. -/
def isAddress (u : Url) : Bool :=
  let text := u.render.toList
  text.length ≤ mostAddressChars &&
    match text.drop u.scheme.length with
    | ':' :: '/' :: '/' :: rest =>
      u.scheme.length ≤ mostSchemeChars &&
        match Seen.after? {} rest with
        | some after => after.length < rest.length && isPathAndQuery after
        | none => false
    | _ => Seen.after? {} text == some []

end Tutor.Http
