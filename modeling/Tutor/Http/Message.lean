import Tutor.Http.Header
import Tutor.Url.Parse

/-!
# Messages

The requests that are sent to other servers and what comes back. An answer may break off: its body
is then what had arrived.
-/

namespace Tutor.Http

/-- What a request does. -/
inductive Method where
  /-- Asks for something. -/
  | get
  /-- Hands something over. -/
  | post
deriving DecidableEq, Repr

/-- The method as it is sent. -/
def Method.name : Method → String
  | .get => "GET"
  | .post => "POST"

/-- A request to another server. -/
structure Request where
  /-- The method. -/
  method : Method
  /-- Where the request goes. -/
  url : Url
  /-- The header. -/
  header : Header := []
  /-- The body; a request may have none. -/
  body : Option (List UInt8) := none
  /-- How long the whole exchange may take, in milliseconds. -/
  timeout : Nat
deriving DecidableEq, Repr

/-- An answer. -/
structure Response where
  /-- The status. -/
  status : Nat
  /-- The header. -/
  header : Header := []
  /-- The bytes of the body that arrived. -/
  body : List UInt8 := []
  /-- Whether the body arrived completely. -/
  isWhole : Bool := true
deriving DecidableEq, Repr

/-- What becomes of a request. -/
inductive Exchange where
  /-- No answer came, for a reason in words. -/
  | failed (reason : String)
  /-- An answer came. -/
  | answered (response : Response)
deriving DecidableEq, Repr

end Tutor.Http
