import Tutor.Fault
import Tutor.Server.Message

/-!
# Refusals

What a caller is told when a request fails. A service that lacks configuration says so, a request
that is not acceptable is the caller's fault, and everything else is a fault of the server, with the
reason as a detail.
-/

namespace Tutor.Server

open Tutor.Http

/-- What a caller is told. -/
structure Refusal where
  /-- The status. -/
  status : Nat
  /-- What went wrong. -/
  error : String
  /-- Why. -/
  detail : Option String := none
deriving DecidableEq, Repr

namespace Refusal

/-- The refusal of a request that is not acceptable. -/
def ofRequest (why : String) : Refusal := ⟨400, why, none⟩

/-- What a caller is told of a fault. -/
def ofFault (f : Fault) : Refusal :=
  if f.isConfiguration then ⟨500, f.root.message, none⟩
  else
    match f.root with
    | .request why => ofRequest why
    | _ => ⟨500, "server error", some f.message⟩

/-- The refusal as JSON. -/
def toValue (r : Refusal) : Json.Value :=
  .object ([("ok", .bool false), ("error", .text r.error)] ++
    (r.detail.map fun d => ("detail", Json.Value.text d)).toList)

/-- The answer that refuses. -/
def response (r : Refusal) : Response := json r.status r.toValue

end Refusal

end Tutor.Server
