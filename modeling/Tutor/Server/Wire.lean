import Tutor.Http.Wire
import Tutor.Server.Message

/-!
# Requests as bytes

A request is read from the bytes that have arrived so far; more may be needed.
-/

namespace Tutor.Server

open Tutor.Http

/-- What the bytes that have arrived make. -/
inductive Arrival where
  /-- More bytes are needed. -/
  | unfinished
  /-- A request. -/
  | request (r : Request)
deriving Repr

/-- The request that bytes make. A request whose length is not told has no body. -/
def Arrival.ofBytes (bs : List UInt8) : Arrival :=
  match head? bs with
  | none => .unfinished
  | some (h, rest) =>
    let (body, isWhole) := match h.header.bodyLength with
      | .untilClose => ([], true)
      | _ => Http.bodyOf h.header rest
    if isWhole then
      .request (.ofTarget (h.words.head?.getD "") (h.words[1]?.getD "/") h.header body)
    else .unfinished

end Tutor.Server
