import Tutor.Speech.Voice
import Tutor.World

/-!
# Resolution

A text is resolved into the places where it can be heard. A synthesizer is asked for all of it at
once first. If that gives nothing, the text is cut into spans and each is asked for on its own; spans
for which there is no place are dropped.
-/

namespace Tutor.Speech

/-- What turns texts into places where they can be heard. -/
structure Synthesizer (σ : Type) where
  /-- The places of a text of any length, in a language. -/
  bulk : String → String → Errand σ (Except Fault (List String))
  /-- The place of a short text, in a language. -/
  single : String → String → Errand σ (Except Fault String)

/-- A voice as a synthesizer. -/
def Voice.synthesizer (v : Voice) : Synthesizer σ where
  bulk text code := pure ((v.locations text code).mapError Refusal.fault)
  single text code := pure ((v.location text code).mapError Refusal.fault)

/-- How places were found. -/
inductive Tier where
  /-- All at once. -/
  | bulk
  /-- Span by span. -/
  | perSpan
deriving DecidableEq, Repr

/-- The places where a text can be heard. -/
structure Resolution where
  /-- The places, in the order of the text. -/
  locations : List String
  /-- How they were found. -/
  tier : Tier
  /-- How many spans were dropped. -/
  dropped : Nat
deriving DecidableEq, Repr

namespace Synthesizer

variable {σ : Type}

/-- Asks for the places of a whole text, and leaves in the trail that it was asked for. -/
def askWhole (s : Synthesizer σ) (text code : String) :
    Run σ (Except Fault (List String)) := do
  Run.record (.spoken (.whole text code))
  Run.errand (s.bulk text code)

/-- Asks for the place of a span, and leaves in the trail that it was asked for. -/
def askSpan (s : Synthesizer σ) (text code : String) : Run σ (Except Fault String) := do
  Run.record (.spoken (.span text code))
  Run.errand (s.single text code)

/-- Asks for each span on its own. -/
def resolveSpans (s : Synthesizer σ) (code : String) : List String → Run σ Resolution
  | [] => return ⟨[], .perSpan, 0⟩
  | span :: spans => do
    let found ← s.askSpan span code
    let r ← resolveSpans s code spans
    match found with
    | .ok place => return { r with locations := place :: r.locations }
    | .error _ => return { r with dropped := r.dropped + 1 }

/-- The places where a text can be heard, in a language. -/
def resolve (s : Synthesizer σ) (spanLength : Nat) (text code : String) : Run σ Resolution := do
  match ← s.askWhole text code with
  | .ok (place :: places) => return ⟨place :: places, .bulk, 0⟩
  | _ => s.resolveSpans code (segment text spanLength)

end Synthesizer

end Tutor.Speech
