import Tutor.Answer.Simplified
import Tutor.Completion.Basic
import Tutor.Prompt

/-!
# Answers

A question is answered by the language model, with the turns before it for context. If a summary is
wanted, the model is called once more, on the answer alone; that call never fails the answer.
-/

namespace Tutor.Answer

/-- How a question is to be answered. -/
structure Options where
  /-- The model. -/
  model : String
  /-- The temperature. -/
  temperature : Number.Single
  /-- Whether a summary is wanted. -/
  simplify : Bool
  /-- The language. -/
  language : String
deriving DecidableEq, Repr

/-- The answer where the model says nothing. -/
def noAnswer : String := "No response."

/-- The messages of a question: the tutor's persona, the turns before, the question. -/
def messages (language : String) (history : List Session.Turn) (question : String) :
    List Message :=
  ⟨.system, Prompt.persona language⟩ :: history.map Message.ofTurn ++ [⟨.user, question⟩]

/-- The messages of the request for a summary. -/
def summaryMessages (language text : String) : List Message :=
  [⟨.system, Prompt.persona language⟩, ⟨.user, Prompt.summaryRequest language text⟩]

/-- The text of the answer that a completion gives. -/
def textOf (r : Reply) : String := if r.text.isEmpty then noAnswer else r.text

end Tutor.Answer

namespace Tutor

/-- An answer. -/
structure Answer where
  /-- The answer. -/
  text : String
  /-- The summary, if there is one. -/
  summary : Option String := none
  /-- The example, if there is one. -/
  illustration : Option String := none
  /-- How the summary went. -/
  stage : Outcome Unit
deriving DecidableEq, Repr

namespace Answer

/-- What is spoken of an answer: the summary if there is one. -/
def spoken (a : Answer) : String := a.summary.getD a.text

variable {σ : Type}

/-- Calls the model for the answer itself. -/
def primary (p : Provider σ) (o : Options) (history : List Session.Turn) (question : String) :
    Run σ (Except Fault String) := do
  match ← p.ask ⟨o.model, messages o.language history question, o.temperature⟩ with
  | .ok r => return .ok (textOf r)
  | .error e => return .error e

/-- Calls the model for the summary of an answer, if it is wanted. -/
def followUp (p : Provider σ) (cool : Number.Single) (o : Options) (text : String) :
    Run σ Answer := do
  if !o.simplify then return { text, stage := .skipped }
  match ← p.ask ⟨o.model, summaryMessages o.language text, cool⟩ with
  | .ok r =>
    let found := Simplified.ofText r.text
    return { text, summary := found.summary, illustration := found.illustration,
             stage := .completed () }
  | .error e => return { text, stage := .degraded e.message }

/-- Answers a question. The summary is made at a temperature of its own. -/
def compose (p : Provider σ) (cool : Number.Single) (o : Options) (history : List Session.Turn)
    (question : String) : Run σ (Except Fault Answer) := do
  match ← primary p o history question with
  | .error e => return .error e
  | .ok text => return .ok (← followUp p cool o text)

end Answer

end Tutor
