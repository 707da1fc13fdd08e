import Tutor.Timestamp

/-!
# Turns

A session is a sequence of turns, each said by the user or by the assistant.
-/

namespace Tutor.Session

/-- Who said something. -/
inductive Role where
  /-- The learner. -/
  | user
  /-- The language model. -/
  | assistant
deriving DecidableEq, Repr

/-- The name of a role in messages. -/
def Role.name : Role → String
  | .user => "user"
  | .assistant => "assistant"

/-- What was said, by whom and when. -/
structure Turn where
  /-- Who said it. -/
  role : Role
  /-- What was said. -/
  text : String
  /-- When it was said. -/
  time : Timestamp
deriving DecidableEq, Repr

/-- The name of the session that a request means when it names none. -/
def defaultName : String := "global"

/-- The session a request means. An empty name counts as none. -/
def resolve : Option String → String
  | some name => if name.isEmpty then defaultName else name
  | none => defaultName

end Tutor.Session
