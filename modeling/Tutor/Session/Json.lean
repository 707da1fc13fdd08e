import Tutor.Json.Decode
import Tutor.Json.Value
import Tutor.Session.Turn

/-!
# Turns as JSON

A turn is written as an object of role, text and time, and read from one.
-/

namespace Tutor.Session

open Tutor.Json

/-- The role of a name. -/
def Role.ofName? (s : String) : Option Role :=
  if s == Role.user.name then some .user
  else if s == Role.assistant.name then some .assistant
  else none

/-- A turn of which some parts are known. -/
structure TurnParts where
  /-- The role. -/
  role : Option Role := none
  /-- The text. -/
  text : Option String := none
  /-- The time. -/
  time : Option Timestamp := none

/-- A point in time in its written form. -/
def timeOf (t : Tree) : Decoded Timestamp := do required (Timestamp.ofText? (← t.string))

/-- The fields of a turn. -/
def turnFields : List (Member TurnParts) :=
  [ ⟨"role", fun t p => do return { p with role := some (← t.choice Role.ofName?) }⟩,
    ⟨"text", fun t p => do return { p with text := some (← t.string) }⟩,
    ⟨"time", fun t p => do return { p with time := some (← timeOf t) }⟩ ]

/-- Reads a turn. -/
def Turn.ofTree (t : Tree) : Decoded Turn := do
  let p ← t.record turnFields {}
  return { role := ← required p.role, text := ← required p.text, time := ← required p.time }

/-- A turn as an object. -/
def Turn.toValue (t : Turn) : Value :=
  .object [("role", .text t.role.name), ("text", .text t.text), ("time", .text t.time.render)]

end Tutor.Session
