import Tutor.Http.Message
import Tutor.Timestamp

/-!
# Errands

What lies outside of the tutor answers in ways that nobody here controls: it is a state of any type
that answers when asked. An errand is a computation that asks it and does nothing else. Whatever an
errand is, it comes back with its result and the requests that it sent, and it cannot have touched a
session or a file.
-/

namespace Tutor

/-- What lies outside: the network, the clock, chance. -/
class Outside (σ : Type) where
  /-- Sends a request. -/
  exchange : Http.Request → σ → Http.Exchange × σ
  /-- Reads the clock. -/
  now : σ → Timestamp × σ
  /-- Draws a number by chance. -/
  draw : σ → Nat × σ
  /-- Takes an address to listen on; if it is refused, for a reason in words. -/
  listen : String → σ → Option String × σ

/-- What an errand comes back with. -/
structure Errand.Yield (σ α : Type) where
  /-- The result. -/
  value : α
  /-- The requests sent, oldest first. -/
  sent : List Http.Request
  /-- What lies outside, afterwards. -/
  outside : σ

/-- A computation that concerns only what lies outside. -/
structure Errand (σ α : Type) where
  /-- Runs the errand. -/
  run : σ → Errand.Yield σ α

namespace Errand

variable {σ α β : Type}

/-! ### Errands one after another -/

instance : Monad (Errand σ) where
  pure a := ⟨fun s => ⟨a, [], s⟩⟩
  bind e f := ⟨fun s =>
    let first := e.run s
    let second := (f first.value).run first.outside
    ⟨second.value, first.sent ++ second.sent, second.outside⟩⟩

@[simp] theorem run_pure (a : α) (s : σ) : (pure a : Errand σ α).run s = ⟨a, [], s⟩ := rfl

@[simp] theorem run_bind (e : Errand σ α) (f : α → Errand σ β) (s : σ) :
    (e >>= f).run s =
      ⟨((f (e.run s).value).run (e.run s).outside).value,
        (e.run s).sent ++ ((f (e.run s).value).run (e.run s).outside).sent,
        ((f (e.run s).value).run (e.run s).outside).outside⟩ := rfl

/-! ### Asking the outside -/

/-- An errand that sends nothing. -/
def silent (f : σ → α × σ) : Errand σ α := ⟨fun s => ⟨(f s).1, [], (f s).2⟩⟩

/-- Sends a request. -/
def exchange [Outside σ] (r : Http.Request) : Errand σ Http.Exchange :=
  ⟨fun s => ⟨(Outside.exchange r s).1, [r], (Outside.exchange r s).2⟩⟩

/-- Reads the clock. -/
def now [Outside σ] : Errand σ Timestamp := silent Outside.now

/-- Draws a number by chance. -/
def draw [Outside σ] : Errand σ Nat := silent Outside.draw

/-- Takes an address to listen on: the reason for which it is refused, if it is. -/
def listen [Outside σ] (address : String) : Errand σ (Option String) :=
  silent (Outside.listen address)

end Errand

end Tutor
