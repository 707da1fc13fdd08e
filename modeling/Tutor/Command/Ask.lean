import Tutor.Ask.Service
import Tutor.Command.Line
import Tutor.Command.Terminal

/-!
# Asking on the command line

One question is asked, and its answer written out with whatever goes with it. Stages that did not
come off are told in a line of their own.
-/

namespace Tutor.Command

/-- The request of a question. -/
def Question.request (q : Question) : Ask.Request :=
  { question := some q.text
    simplify := q.simplify
    language := q.language
    playAudio := q.audio
    session := q.session }

/-- The origin of a question on the command line: the server that the settings name. -/
def originOf (s : Settings) : Speech.Origin :=
  ⟨"http", s.server.host ++ ":" ++ toString s.server.port⟩

/-- A text under a heading, if there is one. -/
def titled (colours : Bool) (title : String) : Option String → List String
  | some text => ["", Paint.heading.apply colours title, text]
  | none => []

/-- A warning behind an empty line. -/
def warning (colours : Bool) (text : String) : List String :=
  ["", Paint.warning.apply colours text]

/-- What is written of a summary's outcome. -/
def summaryLines (colours : Bool) : Outcome Unit → List String
  | .degraded reason => warning colours ("Summary unavailable: " ++ reason)
  | _ => []

/-- What is written of an audio's outcome. -/
def audioLines (colours : Bool) : Outcome Speech.Artifact → List String
  | .completed a => ["", Paint.success.apply colours "Audio:" ++ " " ++ a.path]
  | .degraded reason => warning colours ("Audio unavailable: " ++ reason)
  | .skipped => []

/-- What is written of a reply. -/
def replyText (colours : Bool) (r : Ask.Reply) : String :=
  String.join (([r.text] ++ titled colours "Summary" r.summary
    ++ titled colours "Example" r.illustration ++ summaryLines colours r.summaryStage
    ++ audioLines colours r.audioStage).map (· ++ "\n"))

variable {σ : Type}

/-- Makes the folder of the audio files. -/
def makeFolder (s : Settings) : Run σ (Except Fault Unit) := do
  match ← Run.onDisk (·.createFolders (Path.ofText s.audio.folder)) with
  | .error e => return .error (.system e.message)
  | .ok () => return .ok ()

/-- Asks a question: what is written. -/
def Question.ask [Outside σ] (q : Question) (s : Settings) (colours : Bool) :
    Run σ (Except Fault String) := do
  let ready ← if q.audio then makeFolder s else pure (.ok ())
  match ready with
  | .error e => return .error e
  | .ok () =>
    match ← (Ask.Service.ofSettings s).ask q.request (originOf s) with
    | .error e => return .error e
    | .ok r => return .ok (replyText colours r)

end Tutor.Command
