import Tutor.Fault
import Tutor.Text.Blank
import Tutor.World

/-!
# Completions

A language model is given messages and completes them with one of its own. A provider reaches it.
-/

namespace Tutor

open Tutor.Text

/-- How many tokens a completion took. Counts are words of 64 bits, and so is their sum. -/
structure Usage where
  /-- Tokens of the messages given. -/
  prompt : UInt64
  /-- Tokens of the message completed. -/
  completion : UInt64
  /-- Both together. -/
  total : UInt64
deriving DecidableEq, Repr

/-- The usage of two counts. -/
def Usage.ofCounts (prompt completion : UInt64) : Usage :=
  ⟨prompt, completion, prompt + completion⟩

/-- A completion. -/
structure Reply where
  /-- The message that completes. -/
  message : Message
  /-- What it took, if that is known. -/
  usage : Option Usage := none
deriving DecidableEq, Repr

/-- The text of a completion, without blanks around it. -/
def Reply.text (r : Reply) : String := trimmed r.message.content

/-- What reaches a language model: an errand for every call. -/
structure Provider (σ : Type) where
  /-- Whether it has the credential that it needs. -/
  isConfigured : Bool
  /-- The name of that credential. -/
  credential : String := "provider credentials"
  /-- Completes messages. -/
  complete : Call → Errand σ (Except Fault Reply)

/-- Completes messages, and leaves the call in the trail. -/
def Provider.ask (p : Provider σ) (c : Call) : Run σ (Except Fault Reply) := do
  Run.record (.called c)
  Run.errand (p.complete c)

end Tutor
