import Tutor.Settings.Basic
import Tutor.Yaml.Decode

/-!
# Settings from a file

Settings are written as nested mappings. What is not mentioned keeps its default.
-/

namespace Tutor.Settings

open Tutor.Yaml

/-- Words of 64 bits. -/
def wordBound : Nat := Number.twoTo 64

/-- Ports are words of 16 bits. -/
def portBound : Nat := Number.twoTo 16

/-- The keys of the language model. -/
def openRouterFields : List (Member OpenRouter) :=
  [ ⟨"api_key", fun k n r => do return { r with apiKey := ← n.textOrNull? k }⟩,
    ⟨"api_base", fun k n r => do return { r with apiBase := ← n.text? k }⟩,
    ⟨"model", fun k n r => do return { r with model := ← n.text? k }⟩,
    ⟨"temperature", fun k n r => do return { r with temperature := ← n.single? k }⟩,
    ⟨"timeout_seconds", fun k n r => do return { r with timeout := ← n.natural? k wordBound }⟩ ]

/-- The keys of answers. -/
def providerFields : List (Member Provider) :=
  [ ⟨"openrouter", fun k n r => do
      return { r with openRouter := ← n.record openRouterFields k {} }⟩,
    ⟨"simplify_temperature", fun k n r => do
      return { r with simplifyTemperature := ← n.single? k }⟩ ]

/-- The keys of speech. -/
def speechFields : List (Member Speech) :=
  [ ⟨"tts_host", fun k n r => do return { r with host := ← n.text? k }⟩,
    ⟨"slow", fun k n r => do return { r with slow := ← n.truth? k }⟩,
    ⟨"chunk_chars", fun k n r => do return { r with spanLength := ← n.natural? k wordBound }⟩,
    ⟨"allowed_hosts", fun k n r => do return { r with allowedHosts := ← n.texts? k }⟩,
    ⟨"fetch_timeout_seconds", fun k n r => do
      return { r with timeout := ← n.natural? k wordBound }⟩,
    ⟨"max_redirects", fun k n r => do return { r with redirects := ← n.natural? k wordBound }⟩ ]

/-- The keys of audio files. -/
def audioFields : List (Member Audio) :=
  [ ⟨"output_dir", fun k n r => do return { r with folder := ← n.text? k }⟩,
    ⟨"public_prefix", fun k n r => do return { r with served := ← n.text? k }⟩,
    ⟨"filename_prefix", fun k n r => do return { r with beginning := ← n.text? k }⟩,
    ⟨"extension", fun k n r => do return { r with extension := ← n.text? k }⟩ ]

/-- The keys of sessions. -/
def sessionFields : List (Member Session) :=
  [⟨"window_size", fun k n r => do return { r with window := ← n.natural? k wordBound }⟩]

/-- The keys of the server. -/
def serverFields : List (Member Server) :=
  [ ⟨"host", fun k n r => do return { r with host := ← n.text? k }⟩,
    ⟨"port", fun k n r => do return { r with port := ← n.natural? k portBound }⟩ ]

/-- The keys of all settings. -/
def fields : List (Member Settings) :=
  [ ⟨"provider", fun k n r => do return { r with provider := ← n.record providerFields k {} }⟩,
    ⟨"speech", fun k n r => do return { r with speech := ← n.record speechFields k {} }⟩,
    ⟨"audio", fun k n r => do return { r with audio := ← n.record audioFields k {} }⟩,
    ⟨"session", fun k n r => do return { r with session := ← n.record sessionFields k {} }⟩,
    ⟨"server", fun k n r => do return { r with server := ← n.record serverFields k {} }⟩ ]

end Tutor.Settings

namespace Tutor.Settings

/-- The settings of a document. -/
def ofDocument? (d : Yaml.Document) : Option Settings := d.root.record fields d.anchored {}

/-- The settings of a text. -/
def ofText? (s : String) : Option Settings := (Yaml.Document.ofText? s).bind ofDocument?

end Tutor.Settings
