import Tutor.Fault
import Tutor.Text.Blank
import Tutor.Url.Parse

/-!
# Allowed hosts

Audio is fetched from hosts on a list only. Names on the list are compared without regard to case,
and blank entries stand for no host.
-/

namespace Tutor.Speech

open Tutor.Text

/-- The hosts that audio may be fetched from. -/
structure Allowlist where
  /-- Their names, in lower case. -/
  hosts : List String
deriving DecidableEq, Repr

namespace Allowlist

/-- The hosts on the list where nothing else is configured. -/
def defaultHosts : List String := ["translate.google.com", "translate.googleapis.com"]

/-- The list of some entries. -/
def ofEntries (entries : List String) : Allowlist where
  hosts := (entries.map (fun e => lowered (trimmed e))).filter (fun h => !h.isEmpty)

/-- Whether a host is on the list. -/
def admitsHost (l : Allowlist) (host : String) : Bool :=
  l.hosts.any fun h => sameLetters h.toList host.toList

/-- Whether a URL's host is on the list. -/
def admits (l : Allowlist) (u : Url) : Bool :=
  match u.hostText? with
  | some host => l.admitsHost host
  | none => false

/-- The URL of a place that audio may be fetched from. -/
def check (l : Allowlist) (location : String) : Except Fault Url :=
  match Url.ofText location with
  | .error why => .error (.fetch ("Invalid audio location: " ++ why.message))
  | .ok u =>
    if !(u.scheme == "http" || u.scheme == "https") then
      .error (.fetch ("Unsupported URL scheme: " ++ u.scheme))
    else if l.admits u then .ok u
    else .error (.host (u.hostText?.getD ""))

end Allowlist

end Tutor.Speech
