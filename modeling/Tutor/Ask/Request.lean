import Tutor.Json.Decode
import Tutor.Json.Value

/-!
# Requests

What a learner asks for. All fields may be left out: the default is a summary and audio, in English,
in the session that all callers share.
-/

namespace Tutor.Ask

open Tutor.Json Tutor.Number

/-- A question with its options. -/
structure Request where
  /-- The question. -/
  question : Option String := none
  /-- The language model, if not the configured one. -/
  model : Option String := none
  /-- The temperature of the answer, if not the configured one. -/
  temperature : Option Single := none
  /-- Whether a summary and an example are wanted. -/
  simplify : Bool := true
  /-- The language of the answer. -/
  language : String := "English"
  /-- Whether audio is wanted. -/
  playAudio : Bool := true
  /-- The session. -/
  session : Option String := none
deriving DecidableEq, Repr

namespace Request

/-- The fields, in the order in which an array gives them. -/
def fields : List (Member Request) :=
  [ ⟨"question", fun t r => do return { r with question := ← t.optional Tree.string }⟩,
    ⟨"model", fun t r => do return { r with model := ← t.optional Tree.string }⟩,
    ⟨"temperature", fun t r => do return { r with temperature := ← t.optional Tree.single }⟩,
    ⟨"simplify", fun t r => do return { r with simplify := ← t.truth }⟩,
    ⟨"language", fun t r => do return { r with language := ← t.string }⟩,
    ⟨"playAudio", fun t r => do return { r with playAudio := ← t.truth }⟩,
    ⟨"sessionId", fun t r => do return { r with session := ← t.optional Tree.string }⟩ ]

/-- Reads a request. -/
def ofTree (t : Tree) : Decoded Request := t.record fields {}

/-- A request as an object, with its fields in order. A temperature that is no finite number is
written as null. -/
def toValue (r : Request) : Value :=
  .object
    [ ("question", .textOrNull r.question),
      ("model", .textOrNull r.model),
      ("temperature", match r.temperature.bind Single.literal? with
        | some literal => .number literal
        | none => .null),
      ("simplify", .bool r.simplify),
      ("language", .text r.language),
      ("playAudio", .bool r.playAudio),
      ("sessionId", .textOrNull r.session) ]

end Request

end Tutor.Ask
