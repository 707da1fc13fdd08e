import Tutor.World

/-!
# Replays

A run is a function of what lies outside. To carry it out for real, it is run on what is known of
the outside so far. Where that is not enough, the run tells what it would need to know next; that is
found out, and the run begun again. Its last run is the one that counts.
-/

namespace Tutor

/-- What a run needs to know. -/
inductive Question where
  /-- What becomes of a request. -/
  | exchange (r : Http.Request)
  /-- What time it is. -/
  | now
  /-- A number by chance. -/
  | draw
  /-- Whether an address can be listened on. -/
  | listen (address : String)
deriving DecidableEq, Repr

/-- What became known. -/
inductive Finding where
  /-- What became of a request. -/
  | exchanged (e : Http.Exchange)
  /-- The time. -/
  | time (t : Timestamp)
  /-- A number. -/
  | number (n : Nat)
  /-- Why an address is refused, if it is. -/
  | listened (why : Option String)
deriving DecidableEq, Repr

/-- What is known of the outside, in the order in which it is needed. -/
structure Replay where
  /-- What is known and not used yet. -/
  known : List Finding
  /-- The first question without an answer. -/
  asked : Option Question := none
deriving DecidableEq, Repr

namespace Replay

/-- Asks a question: an answer is taken from what is known. -/
def ask (q : Question) (take? : Finding → Option α) (otherwise : α) (r : Replay) : α × Replay :=
  match r.known with
  | f :: more =>
    match take? f with
    | some a => (a, { r with known := more })
    | none => (otherwise, { known := [], asked := r.asked.or (some q) })
  | [] => (otherwise, { r with asked := r.asked.or (some q) })

instance : Outside Replay where
  exchange q := ask (.exchange q)
    (fun | .exchanged e => some e | _ => none) (.failed "nothing is known")
  now := ask .now (fun | .time t => some t | _ => none) ⟨0, 0⟩
  draw := ask .draw (fun | .number n => some n | _ => none) 0
  listen a := ask (.listen a) (fun | .listened w => some w | _ => none) none

/-- Runs on what is known: the result, and the question that is open if there is one. -/
def attempt (act : Run Replay α) (w : World Unit) (known : List Finding) :
    α × World Unit × Option Question :=
  let (a, after) := act.run ⟨w.sessions, w.disk, w.trail, { known }⟩
  (a, ⟨after.sessions, after.disk, after.trail, ()⟩, after.outside.asked)

end Replay

end Tutor
