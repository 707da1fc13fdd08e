import Tutor.Fault
import Tutor.Settings.Basic
import Tutor.Speech.Voice

/-!
# Usable settings

Settings that can be read can still be of no use. The first reason found is the one told. A missing
credential is no reason: questions report it one by one, and all else works without it.
-/

namespace Tutor.Settings

open Tutor.Text

/-- Why settings are of no use. -/
inductive Flaw where
  /-- A text is missing; its key is named. -/
  | missing (key : String)
  /-- A temperature is out of bounds; its key is named. -/
  | temperature (key : String)
  /-- A number is zero; its key is named. -/
  | zero (key : String)
  /-- Spans are too short or too long. -/
  | spanLength
  /-- The path below which audio is served names none. -/
  | served
  /-- A part of the names of audio files is missing. -/
  | name
deriving DecidableEq, Repr

/-- The flaw in words. -/
def Flaw.message : Flaw → String
  | missing key => key ++ " cannot be empty"
  | temperature key => key ++ " must be between 0.0 and 2.0"
  | zero key => key ++ " must be greater than 0"
  | spanLength => "speech.chunk_chars must be between 1 and " ++ toString Speech.mostChars
  | served => "audio.public_prefix must start with '/' and name a path"
  | name => "audio.filename_prefix and audio.extension cannot be empty"

/-- What is looked for, in order, and whether it is there. -/
def flaws (s : Settings) : List (Flaw × Bool) :=
  let r := s.provider.openRouter
  [ (.missing "provider.openrouter.api_base", isBlankText r.apiBase),
    (.missing "provider.openrouter.model", isBlankText r.model),
    (.temperature "provider.openrouter.temperature", !r.temperature.isBetweenZeroAnd 2),
    (.temperature "provider.simplify_temperature",
      !s.provider.simplifyTemperature.isBetweenZeroAnd 2),
    (.zero "provider.openrouter.timeout_seconds", r.timeout == 0),
    (.spanLength, s.speech.spanLength == 0 || Speech.mostChars < s.speech.spanLength),
    (.missing "speech.allowed_hosts", s.speech.allowedHosts.isEmpty),
    (.zero "speech.fetch_timeout_seconds", s.speech.timeout == 0),
    (.served, s.audio.served.toList.head? != some '/' || s.audio.served.length < 2),
    (.name, s.audio.beginning.isEmpty || s.audio.extension.isEmpty),
    (.zero "session.window_size", s.session.window == 0) ]

/-- The first flaw, if there is one. -/
def flaw? (s : Settings) : Option Flaw := (s.flaws.find? (·.2)).map (·.1)

/-- Whether settings are of use. -/
def validate (s : Settings) : Except Fault Unit :=
  match s.flaw? with
  | some f => .error (.configuration f.message)
  | none => .ok ()

/-- Whether there is a credential for the language model. -/
def hasCredential (s : Settings) : Bool :=
  s.provider.openRouter.apiKey.any fun k => !isBlankText k

end Tutor.Settings
