import Tutor.Http.Client
import Tutor.Speech.Allowlist
import Tutor.World

/-!
# Assembly

Pieces of audio are fetched one after another and appended to one file. A piece that cannot be
fetched completely leaves no bytes in the file and is passed over. If no piece could be fetched, no
file is left.
-/

namespace Tutor.Speech

open Tutor.Http

/-- How pieces are fetched. -/
structure Fetching where
  /-- The hosts they may come from, and be redirected to. -/
  allowed : Allowlist
  /-- How long one piece may take, in milliseconds. -/
  timeout : Nat
  /-- How many redirects are followed. -/
  redirects : Nat
deriving DecidableEq, Repr

/-- A piece that was passed over. -/
structure MissingPiece where
  /-- Its place among the pieces. -/
  index : Nat
  /-- Where it should have come from. -/
  location : String
  /-- Why it was passed over. -/
  reason : String
  /-- Whether a host on the way is not allowed. -/
  rejected : Bool
deriving DecidableEq, Repr

/-- What an assembly wrote. -/
structure Report where
  /-- The pieces in the file, in order. -/
  written : List Nat := []
  /-- The pieces passed over, in order. -/
  missing : List MissingPiece := []
  /-- The number of bytes in the file. -/
  bytes : Nat := 0
deriving DecidableEq, Repr

/-- Whether no piece was written. -/
def Report.isEmpty (r : Report) : Bool := r.written.isEmpty

/-- Whether a fault is that of a host that is not allowed. -/
def isRejection (f : Fault) : Bool :=
  match f.root with
  | .host _ => true
  | _ => false

namespace Fetching

variable {σ : Type}

/-- The header under which pieces are asked for. -/
def header : Header :=
  [ field "user-agent" "Mozilla/5.0 (Windows NT 10.0; Win64; x64)",
    field "referer" "https://translate.google.com",
    field "accept" "*/*" ]

/-- The request for a piece. -/
def request (f : Fetching) (u : Url) : Request :=
  { method := .get, url := u, header := header, timeout := f.timeout }

/-- The redirects that are followed. -/
def policy (f : Fetching) : Policy := ⟨f.redirects, f.allowed.admits⟩

/-- The fault of a request that got no final answer. -/
def faultOf : Failure → Fault
  | .notAllowed u => .host (u.hostText?.getD "")
  | why => .fetch ("Failed to fetch chunk: " ++ why.message)

/-- Fetches a piece. -/
def fetch [Outside σ] (f : Fetching) (location : String) :
    Errand σ (Except Fault Response) := do
  match f.allowed.check location with
  | .error e => return .error e
  | .ok u =>
    match ← f.policy.send (f.request u) with
    | .error why => return .error (faultOf why)
    | .ok r =>
      if 200 ≤ r.status ∧ r.status < 400 then return .ok r
      else return .error (.fetch ("HTTP " ++ toString r.status ++ " for chunk"))

/-- Appends the body of an answer to a file as it arrives. If it breaks off, the file is cut back to
the length that it had before. The file is there afterwards in any case. -/
def appendBody (destination : Path) (r : Response) : Run σ (Except Fault Nat) := do
  let w ← get
  match w.disk.openFile destination with
  | .error e => return .error (.system e.message)
  | .ok (place, before, opened) =>
    let grown := opened.append place r.body
    if r.isWhole then
      set { w with disk := grown }
      return .ok r.body.length
    else
      set { w with disk := grown.truncate place before.length }
      return .error (.fetch "Chunk body interrupted: end of file before message length reached")

/-- Fetches a piece and appends it to a file: the number of bytes appended. -/
def appendPiece [Outside σ] (f : Fetching) (destination : Path) (location : String) :
    Run σ (Except Fault Nat) := do
  match ← Run.errand (f.fetch location) with
  | .error e => return .error e
  | .ok r => appendBody destination r

/-- Appends pieces in order, the first of them at a place among all pieces. -/
def appendAll [Outside σ] (f : Fetching) (destination : Path) :
    Nat → List String → Report → Run σ Report
  | _, [], report => return report
  | index, location :: more, report => do
    match ← f.appendPiece destination location with
    | .ok n =>
      Run.count (.piece .written)
      appendAll f destination (index + 1) more
        { report with written := report.written ++ [index], bytes := report.bytes + n }
    | .error e =>
      let rejected := isRejection e
      Run.count (.piece (if rejected then .rejected else .failed))
      appendAll f destination (index + 1) more
        { report with missing := report.missing ++ [⟨index, location, e.message, rejected⟩] }

/-- Makes the folder of a file, and removes the file if it is there. -/
def prepare (destination : Path) : Run σ (Except Fault Unit) := do
  let folders ← match destination.parent? with
    | some folder => Run.onDisk (·.createFolders folder)
    | none => pure (.ok ())
  match folders with
  | .error e => return .error (.system e.message)
  | .ok () =>
    match ← Run.onDisk (·.removeFile destination) with
    | .error e => return .error (.system e.message)
    | .ok () => return .ok ()

/-- Fetches all pieces in order into one file. -/
def assemble [Outside σ] (f : Fetching) (locations : List String) (destination : Path) :
    Run σ (Except Fault Report) := do
  match ← prepare destination with
  | .error e => return .error e
  | .ok () =>
    let report ← f.appendAll destination 0 locations {}
    if report.isEmpty then
      let _ ← Run.onDisk (·.removeFile destination)
    return .ok report

end Fetching

end Tutor.Speech
