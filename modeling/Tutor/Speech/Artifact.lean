import Tutor.Speech.Assembly
import Tutor.Speech.Language
import Tutor.Speech.Origin
import Tutor.Speech.Resolution

/-!
# Audio artifacts

An answer is spoken into a file of its own, under a name that tells when it was made and that hardly
any other file has. Whatever goes wrong on the way, the answer stands without audio.
-/

namespace Tutor.Speech

open Tutor.Text

/-! ### Names -/

/-- Milliseconds since the start of 1970. -/
def millis (t : Timestamp) : Int := t.seconds * 1000 + t.nanos / 1000000

/-- Seven digits in base thirty-six, by chance. -/
def suffix (draw : Nat) : List Char :=
  let ds := digitsIn 36 (draw % Nat.pow 36 7)
  List.replicate (7 - ds.length) '0' ++ ds

/-- The name of an artifact. Dots in front of the extension count for nothing. -/
def artifactName (beginning extension : String) (made : Timestamp) (draw : Nat) : String :=
  beginning ++ "_" ++ toString (millis made) ++ "_" ++ String.ofList (suffix draw) ++ "." ++
    String.ofList (extension.toList.dropWhile (· == '.'))

/-- The audio of an answer. -/
structure Artifact where
  /-- The name of the file. -/
  name : String
  /-- The path to the file. -/
  path : String
  /-- The address of the file. -/
  url : String
  /-- The number of bytes. -/
  bytes : Nat
  /-- The number of pieces in it. -/
  written : Nat
  /-- The number of pieces missing from it. -/
  missing : Nat
deriving DecidableEq, Repr

/-! ### Recording -/

/-- How answers are recorded. -/
structure Recorder (σ : Type) where
  /-- Finds the places where texts can be heard. -/
  synthesizer : Synthesizer σ
  /-- The length of spans, where a text is resolved span by span. -/
  spanLength : Nat
  /-- How pieces are fetched. -/
  fetching : Fetching
  /-- The folder of the artifacts. -/
  folder : String
  /-- The path below which they are served. -/
  served : String
  /-- The beginning of their names. -/
  beginning : String
  /-- Their extension. -/
  extension : String

namespace Recorder

variable {σ : Type}

/-- Names a fresh artifact. -/
def freshName [Outside σ] (r : Recorder σ) : Errand σ String := do
  return artifactName r.beginning r.extension (← Errand.now) (← Errand.draw)

/-- Fetches the pieces of an answer into a fresh artifact. -/
def recordFrom [Outside σ] (r : Recorder σ) (locations : List String) (origin : Origin) :
    Run σ (Outcome Artifact) := do
  let name ← Run.errand r.freshName
  let path := Path.join r.folder name
  match ← r.fetching.assemble locations (Path.ofText path) with
  | .error e => return .degraded ("audio assembly failed: " ++ e.message)
  | .ok report =>
    if report.isEmpty then return .degraded "no audio available"
    else
      return .completed
        { name, path, url := origin.urlOf r.served name, bytes := report.bytes
          written := report.written.length, missing := report.missing.length }

/-- Records a text that is spoken in a language. -/
def record [Outside σ] (r : Recorder σ) (text language : String) (origin : Origin) :
    Run σ (Outcome Artifact) := do
  if isBlankText text then return .skipped
  let found ← r.synthesizer.resolve r.spanLength text (languageCode language)
  if found.locations.isEmpty then return .degraded "no audio locations resolved"
  r.recordFrom found.locations origin

end Recorder

end Tutor.Speech
