import Tutor.Answer.Basic
import Tutor.Ask.Request
import Tutor.Completion.OpenRouter
import Tutor.Settings.Basic
import Tutor.Speech.Artifact

/-!
# The tutor's service

A learner asks within a session. The question is kept as soon as it is accepted, the answer as soon
as there is one. The turns that an answer takes into account are those before the question. Summary
and audio never fail an answer.
-/

namespace Tutor.Ask

open Tutor.Text

/-- An answer with everything that goes with it. -/
structure Reply where
  /-- The answer. -/
  text : String
  /-- The summary, if there is one. -/
  summary : Option String
  /-- The example, if there is one. -/
  illustration : Option String
  /-- The address of the audio, if there is any. -/
  audio : Option String
  /-- The session in which the question was asked. -/
  session : String
  /-- How the summary went. -/
  summaryStage : Outcome Unit
  /-- How the audio went. -/
  audioStage : Outcome Speech.Artifact
deriving DecidableEq, Repr

/-- What answers questions. -/
structure Service (σ : Type) where
  /-- Reaches the language model. -/
  provider : Provider σ
  /-- Speaks answers. -/
  recorder : Speech.Recorder σ
  /-- The model that answers where a request names none. -/
  model : String
  /-- The temperature of answers where a request names none. -/
  temperature : Number.Single
  /-- The temperature of summaries. -/
  summaryTemperature : Number.Single
  /-- How many turns of a session an answer takes into account. -/
  window : Nat

namespace Service

variable {σ : Type}

/-- The recorder of some settings. -/
def recorderOf (s : Settings) (synthesizer : Speech.Synthesizer σ) : Speech.Recorder σ where
  synthesizer
  spanLength := s.speech.spanLength
  fetching :=
    { allowed := .ofEntries s.speech.allowedHosts
      timeout := s.speech.timeout * 1000
      redirects := s.speech.redirects }
  folder := s.audio.folder
  served := s.audio.served
  beginning := s.audio.beginning
  extension := s.audio.extension

/-- The synthesizer of some settings. -/
def synthesizerOf (s : Settings) : Speech.Synthesizer σ :=
  Speech.Voice.synthesizer ⟨s.speech.host, s.speech.slow⟩

/-- The service of some settings, around a provider and a synthesizer. -/
def around (s : Settings) (provider : Provider σ) (synthesizer : Speech.Synthesizer σ) :
    Service σ where
  provider
  recorder := recorderOf s synthesizer
  model := s.provider.openRouter.model
  temperature := s.provider.openRouter.temperature
  summaryTemperature := s.provider.simplifyTemperature
  window := s.session.window

/-- The service of some settings. -/
def ofSettings [Outside σ] (s : Settings) : Service σ :=
  around s (Completion.openRouter s.provider.openRouter) (synthesizerOf s)

/-! ### Sessions -/

/-- The turns that the next answer takes into account. -/
def context (s : Service σ) (session : String) : Run σ (List Session.Turn) := do
  return (← get).sessions.window session s.window

/-- Keeps what was said. -/
def keep [Outside σ] (session : String) (role : Session.Role) (text : String) : Run σ Unit := do
  let time ← Run.errand Errand.now
  Run.onSessions fun store => store.append session ⟨role, text, time⟩

/-- All turns of a session. -/
def history (session : Option String) : Run σ (List Session.Turn) := do
  return (← get).sessions.turns (Session.resolve session)

/-- Forgets a session. -/
def forget (session : Option String) : Run σ Unit :=
  Run.onSessions fun store => store.clear (Session.resolve session)

/-! ### Asking -/

/-- How the answer to a request is made. -/
def optionsFor (s : Service σ) (r : Request) : Answer.Options where
  model := (r.model.filter fun m => !isBlankText m).getD s.model
  temperature := r.temperature.getD s.temperature
  simplify := r.simplify
  language := r.language

/-- The audio of an answer, if it is wanted. -/
def voice [Outside σ] (s : Service σ) (r : Request) (a : Answer) (origin : Speech.Origin) :
    Run σ (Outcome Speech.Artifact) :=
  if r.playAudio then s.recorder.record a.spoken r.language origin else return .skipped

/-- Keeps an answer and adds audio to it. -/
def deliver [Outside σ] (s : Service σ) (r : Request) (session : String) (a : Answer)
    (origin : Speech.Origin) : Run σ Reply := do
  Run.count (.simplified a.stage.label)
  keep session .assistant a.text
  let audio ← s.voice r a origin
  Run.count (.voiced audio.label)
  Run.count (.asked .ok)
  return {
    text := a.text
    summary := a.summary
    illustration := a.illustration
    audio := audio.value?.map (·.url)
    session
    summaryStage := a.stage
    audioStage := audio }

/-- Answers an accepted question. -/
def answerIn [Outside σ] (s : Service σ) (r : Request) (session question : String)
    (origin : Speech.Origin) : Run σ (Except Fault Reply) := do
  let before ← s.context session
  keep session .user question
  match ← Answer.compose s.provider s.summaryTemperature (s.optionsFor r) before question with
  | .error e =>
    Run.count (.asked .providerError)
    return .error e
  | .ok a => return .ok (← s.deliver r session a origin)

/-- Answers a request, if there is a credential and a question. -/
def ask [Outside σ] (s : Service σ) (r : Request) (origin : Speech.Origin) :
    Run σ (Except Fault Reply) := do
  if !s.provider.isConfigured then
    Run.count (.asked .unconfigured)
    return .error (.credential s.provider.credential)
  match r.question.filter fun q => !isBlankText q with
  | none =>
    Run.count (.asked .invalid)
    return .error (.request "question is required")
  | some question => s.answerIn r (Session.resolve r.session) question origin

end Service

end Tutor.Ask
