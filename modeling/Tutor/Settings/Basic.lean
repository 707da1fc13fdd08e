import Tutor.Number.Single
import Tutor.Speech.Allowlist

/-!
# Settings

Everything that can be configured, with what holds where nothing is.
-/

namespace Tutor.Settings

open Tutor.Number

/-- How the language model is reached. -/
structure OpenRouter where
  /-- The credential. -/
  apiKey : Option String := none
  /-- The address of the service. -/
  apiBase : String := "https://openrouter.ai/api/v1"
  /-- The model. -/
  model : String := "meta-llama/llama-3.1-70b-instruct"
  /-- The temperature of answers. -/
  temperature : Single := Single.ofRatio false 1 2
  /-- How long a completion may take, in seconds. -/
  timeout : Nat := 60
deriving DecidableEq, Repr

/-- How answers are made. -/
structure Provider where
  /-- How the language model is reached. -/
  openRouter : OpenRouter := {}
  /-- The temperature of summaries. -/
  simplifyTemperature : Single := Single.ofRatio false 1 5
deriving DecidableEq, Repr

/-- How answers are spoken. -/
structure Speech where
  /-- The address of the speech service. -/
  host : String := "https://translate.google.com"
  /-- Whether the voice is slow. -/
  slow : Bool := false
  /-- The length of spans. -/
  spanLength : Nat := 180
  /-- The hosts that audio may come from. -/
  allowedHosts : List String := Speech.Allowlist.defaultHosts
  /-- How long a piece of audio may take, in seconds. -/
  timeout : Nat := 15
  /-- How many redirects of a piece are followed. -/
  redirects : Nat := 5
deriving DecidableEq, Repr

/-- Where audio goes. -/
structure Audio where
  /-- The folder of the artifacts. -/
  folder : String := "public/audio"
  /-- The path below which they are served. -/
  served : String := "/audio"
  /-- The beginning of their names. -/
  beginning : String := "learnify_audio"
  /-- Their extension. -/
  extension : String := "mp3"
deriving DecidableEq, Repr

/-- What the tutor remembers. -/
structure Session where
  /-- How many turns of a session an answer takes into account. -/
  window : Nat := 6
deriving DecidableEq, Repr

/-- Where the server listens. -/
structure Server where
  /-- The host. -/
  host : String := "0.0.0.0"
  /-- The port. -/
  port : Nat := 5000
deriving DecidableEq, Repr

end Tutor.Settings

namespace Tutor

/-- All settings. -/
structure Settings where
  /-- How answers are made. -/
  provider : Settings.Provider := {}
  /-- How answers are spoken. -/
  speech : Settings.Speech := {}
  /-- Where audio goes. -/
  audio : Settings.Audio := {}
  /-- What is remembered. -/
  session : Settings.Session := {}
  /-- Where the server listens. -/
  server : Settings.Server := {}
deriving DecidableEq, Repr

end Tutor
