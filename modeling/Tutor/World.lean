import Tutor.Disk.Basic
import Tutor.Errand
import Tutor.Number.Single
import Tutor.Outcome
import Tutor.Session.Store

/-!
# The world of a run

What the tutor does beyond computing, it does to a world: it keeps sessions, writes files, runs
errands outside, and leaves a trail of what it did.
-/

namespace Tutor

/-! ### Messages to the language model -/

/-- Who speaks in a message to the language model. -/
inductive Speaker where
  /-- The instructions. -/
  | system
  /-- The learner. -/
  | user
  /-- The language model. -/
  | assistant
deriving DecidableEq, Repr

/-- The name of a speaker. -/
def Speaker.name : Speaker → String
  | .system => "system"
  | .user => "user"
  | .assistant => "assistant"

/-- A message to or from the language model. -/
structure Message where
  /-- Who speaks. -/
  speaker : Speaker
  /-- What is said. -/
  content : String
deriving DecidableEq, Repr

/-- The message that a turn of a session becomes. -/
def Message.ofTurn (t : Session.Turn) : Message :=
  ⟨match t.role with
    | .user => .user
    | .assistant => .assistant, t.text⟩

/-- A call of the language model. -/
structure Call where
  /-- The model. -/
  model : String
  /-- The messages, in order. -/
  messages : List Message
  /-- The temperature. -/
  temperature : Number.Single
deriving DecidableEq, Repr

/-! ### The trail -/

/-- How a question ended. -/
inductive Verdict where
  /-- No credential. -/
  | unconfigured
  /-- No question. -/
  | invalid
  /-- No answer. -/
  | providerError
  /-- An answer. -/
  | ok
deriving DecidableEq, Repr

/-- The verdict in words. -/
def Verdict.name : Verdict → String
  | .unconfigured => "unconfigured"
  | .invalid => "invalid"
  | .providerError => "provider_error"
  | .ok => "ok"

/-- How a piece of audio ended. -/
inductive PieceResult where
  /-- It was appended. -/
  | written
  /-- It could not be fetched. -/
  | failed
  /-- Its host is not allowed. -/
  | rejected
deriving DecidableEq, Repr

/-- The result in words. -/
def PieceResult.name : PieceResult → String
  | .written => "written"
  | .failed => "failed"
  | .rejected => "rejected"

/-- The counters. -/
inductive Counter where
  /-- Questions, by verdict. -/
  | asked (v : Verdict)
  /-- Summary stages, by outcome. -/
  | simplified (l : Outcome.Label)
  /-- Audio stages, by outcome. -/
  | voiced (l : Outcome.Label)
  /-- Pieces of audio, by result. -/
  | piece (r : PieceResult)
deriving DecidableEq, Repr

/-- The name of a counter with its label. -/
def Counter.name : Counter → String
  | .asked v => "learnify_ask_total\x7bstatus=" ++ v.name ++ "\x7d"
  | .simplified l => "learnify_simplify_total\x7boutcome=" ++ l.name ++ "\x7d"
  | .voiced l => "learnify_audio_artifacts_total\x7boutcome=" ++ l.name ++ "\x7d"
  | .piece r => "learnify_audio_chunks_total\x7bresult=" ++ r.name ++ "\x7d"

/-- What a synthesizer is asked for. -/
inductive Utterance where
  /-- The places where a whole text can be heard, in a language. -/
  | whole (text code : String)
  /-- The place where a span can be heard, in a language. -/
  | span (text code : String)
deriving DecidableEq, Repr

/-- Something that a run did. -/
inductive Event where
  /-- A counter went up by one. -/
  | counted (c : Counter)
  /-- The language model was called. -/
  | called (c : Call)
  /-- The synthesizer was asked. -/
  | spoken (u : Utterance)
  /-- A request was sent. -/
  | sent (r : Http.Request)
deriving DecidableEq, Repr

/-! ### Worlds -/

/-- The state of everything. -/
structure World (σ : Type) where
  /-- The sessions. -/
  sessions : Session.Store := ∅
  /-- The files. -/
  disk : Disk := {}
  /-- What was done, oldest first. -/
  trail : List Event := []
  /-- What lies outside. -/
  outside : σ

/-- A computation in a world. -/
abbrev Run (σ : Type) := StateM (World σ)

namespace Run

variable {σ α β : Type}

/-- Leaves something in the trail. -/
def record (e : Event) : Run σ Unit :=
  modify fun w => { w with trail := w.trail ++ [e] }

/-- Counts something. -/
def count (c : Counter) : Run σ Unit := record (.counted c)

/-- Runs an errand. The requests that it sends are left in the trail. -/
def errand (e : Errand σ α) : Run σ α :=
  modifyGet fun w =>
    let y := e.run w.outside
    (y.value, { w with trail := w.trail ++ y.sent.map Event.sent, outside := y.outside })

/-- Performs a file operation that may be refused. -/
def onDisk (f : Disk → Except Disk.Problem Disk) : Run σ (Except Disk.Problem Unit) :=
  modifyGet fun w =>
    match f w.disk with
    | .ok d => (.ok (), { w with disk := d })
    | .error e => (.error e, w)

/-- Changes the sessions. -/
def onSessions (f : Session.Store → Session.Store) : Run σ Unit :=
  modify fun w => { w with sessions := f w.sessions }

/-! ### What each operation does to the world -/

theorem run_pure (a : α) (w : World σ) : StateT.run (pure a : Run σ α) w = (a, w) := rfl

theorem run_bind (x : Run σ α) (f : α → Run σ β) (w : World σ) :
    StateT.run (x >>= f) w = StateT.run (f (StateT.run x w).1) (StateT.run x w).2 := rfl

theorem run_record (e : Event) (w : World σ) :
    StateT.run (record e) w = ((), { w with trail := w.trail ++ [e] }) := rfl

theorem run_errand (e : Errand σ α) (w : World σ) :
    StateT.run (errand e) w =
      ((e.run w.outside).value,
        { w with
          trail := w.trail ++ (e.run w.outside).sent.map Event.sent
          outside := (e.run w.outside).outside }) := rfl

theorem run_onDisk_ok {f : Disk → Except Disk.Problem Disk} {w : World σ} {d : Disk}
    (h : f w.disk = .ok d) : StateT.run (onDisk f) w = (.ok (), { w with disk := d }) := by
  simp only [onDisk, modifyGet, MonadStateOf.modifyGet, StateT.modifyGet, StateT.run, h]
  rfl

theorem run_onDisk_error {f : Disk → Except Disk.Problem Disk} {w : World σ} {e : Disk.Problem}
    (h : f w.disk = .error e) : StateT.run (onDisk f) w = (.error e, w) := by
  simp only [onDisk, modifyGet, MonadStateOf.modifyGet, StateT.modifyGet, StateT.run, h]
  rfl

theorem run_onSessions (f : Session.Store → Session.Store) (w : World σ) :
    StateT.run (onSessions f) w = ((), { w with sessions := f w.sessions }) := rfl

end Run

end Tutor
