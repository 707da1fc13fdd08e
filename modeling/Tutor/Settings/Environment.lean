import Tutor.Settings.Reading
import Tutor.Text.Utf8

/-!
# Settings from the environment

Variables of the environment override what a file says. A variable that is no text, or whose text is
no value of its setting, overrides nothing.
-/

namespace Tutor.Settings

open Tutor.Number Tutor.Text

/-- The variables of an environment, with their bytes. -/
abbrev Environment := List (String × List UInt8)

/-- The text of a variable. -/
def Environment.text? (e : Environment) (name : String) : Option String := do
  let (_, bytes) ← e.find? (·.1 == name)
  Text.text? bytes

/-- A variable, and how its text goes into the settings. -/
structure Variable where
  /-- The name. -/
  name : String
  /-- The settings with the text taken over, if it is a value. -/
  set? : String → Settings → Option Settings

/-- Changes how the language model is reached. -/
def onOpenRouter (s : Settings) (f : OpenRouter → OpenRouter) : Settings :=
  { s with provider.openRouter := f s.provider.openRouter }

/-- The variables, in the order in which they are taken over. -/
def knownVariables : List Variable :=
  [ ⟨"OPENROUTER_API_KEY", fun t s =>
      if isBlankText t then none else some (s.onOpenRouter fun r => { r with apiKey := some t })⟩,
    ⟨"LEARNIFY_API_BASE", fun t s => some (s.onOpenRouter fun r => { r with apiBase := t })⟩,
    ⟨"LEARNIFY_MODEL", fun t s => some (s.onOpenRouter fun r => { r with model := t })⟩,
    ⟨"LEARNIFY_TEMPERATURE", fun t s => do
      let x ← Single.ofText? t
      return s.onOpenRouter fun r => { r with temperature := x }⟩,
    ⟨"LEARNIFY_HOST", fun t s => some { s with server.host := t }⟩,
    ⟨"PORT", fun t s => do return { s with server.port := ← natural? portBound t.toList }⟩,
    ⟨"LEARNIFY_PORT", fun t s => do
      return { s with server.port := ← natural? portBound t.toList }⟩,
    ⟨"LEARNIFY_AUDIO_DIR", fun t s => some { s with audio.folder := t }⟩,
    ⟨"LEARNIFY_TTS_HOST", fun t s => some { s with speech.host := t }⟩,
    ⟨"LEARNIFY_HISTORY_WINDOW", fun t s => do
      return { s with session.window := ← natural? wordBound t.toList }⟩ ]

/-- Takes over a variable. -/
def Variable.apply (v : Variable) (e : Environment) (s : Settings) : Settings :=
  ((e.text? v.name).bind (v.set? · s)).getD s

/-- The settings with the variables of an environment taken over. -/
def withEnvironment (s : Settings) (e : Environment) : Settings :=
  knownVariables.foldl (fun s v => v.apply e s) s

end Tutor.Settings
