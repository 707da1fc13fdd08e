import Tutor.Http.Message
import Tutor.Json.Value
import Tutor.Text.Utf8

/-!
# Requests that arrive

What the server is asked, and the shapes of what it answers. The target of a request is a path and
a query; a fragment never concerns a server.
-/

namespace Tutor.Server

open Tutor.Http Tutor.Text

/-- A request that arrives. -/
structure Request where
  /-- The method, as it was sent. -/
  method : String
  /-- The path, as it was sent. -/
  path : String
  /-- The query, as it was sent. -/
  query : Option String := none
  /-- The header. -/
  header : Header := []
  /-- The body. -/
  body : List UInt8 := []
deriving DecidableEq, Repr

/-- Path and query of a target. -/
def splitTarget (target : String) : String × Option String :=
  let cs := target.toList.takeWhile (· != '#')
  match cutAt? (· == '?') cs with
  | some (path, query) => (String.ofList path, some (String.ofList query))
  | none => (String.ofList cs, none)

/-- The request for a target. -/
def Request.ofTarget (method target : String) (header : Header) (body : List UInt8) : Request :=
  let (path, query) := splitTarget target
  { method, path, query, header, body }

/-! ### Answers -/

/-- An answer without a body. -/
def bare (status : Nat) (header : Header := []) : Response := { status, header }

/-- An answer with a text. -/
def plain (status : Nat) (text : String) : Response where
  status
  header := [field "content-type" "text/plain; charset=utf-8"]
  body := bytesOf text

/-- An answer with a JSON value. -/
def json (status : Nat) (v : Json.Value) : Response where
  status
  header := [field "content-type" "application/json"]
  body := bytesOf v.render

/-- Acknowledges a request. -/
def acknowledged : Response := json 200 (.object [("ok", .bool true)])

/-- Refuses a method where others are allowed. -/
def notAllowed (allowed : String) : Response := bare 405 [field "allow" allowed]

end Tutor.Server
