import Tutor.Http.Header
import Tutor.Text.Blank

/-!
# Origins

The scheme and host under which a caller reached the server. Addresses handed back to the caller
start with them.
-/

namespace Tutor.Speech

open Tutor.Text Tutor.Http

/-- Scheme and host of the server as the caller sees it. -/
structure Origin where
  /-- The scheme. -/
  scheme : String := "http"
  /-- The host, with its port if it has one. -/
  host : String := "localhost:5000"
deriving DecidableEq, Repr

namespace Origin

/-- The first value of a header field, trimmed, if it can be read and is not blank. -/
def headerText? (h : Header) (name : String) : Option String := do
  let text ← valueText? (← h.first? name)
  nonEmpty? (trim text.toList)

/-- The part of a list before the first comma, trimmed. Of a chain of proxies the first is the one
the caller spoke to. -/
def firstOfList (s : String) : String :=
  trimmed (String.ofList (s.toList.takeWhile (· != ',')))

/-- The origin that a request's header names, with the default for what it does not name. -/
def ofHeader (h : Header) : Origin where
  scheme := ((headerText? h "x-forwarded-proto").map firstOfList).getD ({} : Origin).scheme
  host := (headerText? h "host").getD ({} : Origin).host

/-- Scheme and host as the beginning of an address. -/
def base (o : Origin) : String := o.scheme ++ "://" ++ o.host

/-- The address of a file that is served below a path. -/
def urlOf (o : Origin) (folder name : String) : String :=
  o.base ++ "/" ++ String.ofList (strip (· == '/') folder.toList) ++ "/" ++ name

end Origin

end Tutor.Speech
