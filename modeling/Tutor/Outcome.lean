/-!
# Outcomes of best-effort stages

The summary and the audio of an answer are extras. A stage that makes one never fails the answer:
it reports how it went.
-/

namespace Tutor

/-- How a best-effort stage went. -/
inductive Outcome (α : Type) where
  /-- The stage ran and produced a value. -/
  | completed (value : α)
  /-- The stage ran and failed, for a reason in words. -/
  | degraded (reason : String)
  /-- The stage was not asked for. -/
  | skipped
deriving DecidableEq, Repr

namespace Outcome

/-- The value of a completed stage. -/
def value? : Outcome α → Option α
  | completed a => some a
  | _ => none

/-- The reason of a degraded stage. -/
def reason? : Outcome α → Option String
  | degraded r => some r
  | _ => none

/-- Whether the stage was not asked for. -/
def isSkipped : Outcome α → Bool
  | skipped => true
  | _ => false

/-- An outcome without its value: what is counted of it. -/
inductive Label where
  /-- The stage completed. -/
  | completed
  /-- The stage degraded. -/
  | degraded
  /-- The stage was skipped. -/
  | skipped
deriving DecidableEq, Repr

/-- The label of an outcome. -/
def label : Outcome α → Label
  | completed _ => .completed
  | degraded _ => .degraded
  | skipped => .skipped

/-- The label in words. -/
def Label.name : Label → String
  | .completed => "completed"
  | .degraded => "degraded"
  | .skipped => "skipped"

end Outcome

end Tutor
