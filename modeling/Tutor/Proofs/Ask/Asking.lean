import Tutor.Ask.Service
import Tutor.Proofs.Speech.Trail

/-!
# What a question does to its session

A request is refused, or its question is accepted and kept. Then the language model fails, or its
answer is kept as well. Nothing else that is done for an answer touches a session: the summary and
the audio come after the answer is kept, and have nothing to keep.

* `keeps_compose` – the language model leaves sessions and files alone.
* `composed`, `run_answerIn` – answering an accepted question, part by part.
* `exists_primary`, `primary_eq_error` – an answer is composed exactly if the model gives one.
* `Asked`, `asked_ask` – the three ways that a request can go.
-/

namespace Tutor

variable {σ : Type}

/-! ### Calls of the language model -/

section Inner

variable {γ : Type} {view : World σ → γ} (hview : World.Inner view)

include hview

theorem Provider.keeps_ask (p : Provider σ) (c : Call) : Run.Keeps view (p.ask c) :=
  .bind (hview.record _) fun _ => hview.errand _

theorem Answer.keeps_followUp (p : Provider σ) (cool : Number.Single) (o : Options)
    (text : String) : Run.Keeps view (followUp p cool o text) := by
  rw [followUp]
  split
  · exact .pure _
  · refine .bind (p.keeps_ask hview _) fun x => ?_
    cases x with
    | ok r => exact .pure _
    | error e => exact .pure _

theorem Answer.keeps_primary (p : Provider σ) (o : Options) (before : List Session.Turn)
    (question : String) : Run.Keeps view (primary p o before question) := by
  refine .bind (p.keeps_ask hview _) fun x => ?_
  cases x with
  | ok c => exact .pure _
  | error e => exact .pure _

theorem Answer.keeps_compose (p : Provider σ) (cool : Number.Single) (o : Options)
    (before : List Session.Turn) (question : String) :
    Run.Keeps view (compose p cool o before question) := by
  refine .bind (keeps_primary hview p o before question) fun x => ?_
  cases x with
  | error e => exact .pure _
  | ok text => exact .bind (keeps_followUp hview _ _ _ _) fun _ => .pure _

end Inner

namespace Ask.Service

open Tutor.Text

/-! ### The parts of an answer -/

/-- The question of a request, if it is accepted: there is a credential, and the question is there
and not blank. -/
def accepted? (s : Service σ) (r : Request) : Option String :=
  if s.provider.isConfigured then r.question.filter fun q => !isBlankText q else none

theorem accepted?_eq_some_iff {s : Service σ} {r : Request} {question : String} :
    s.accepted? r = some question ↔
      s.provider.isConfigured = true ∧ r.question = some question ∧
        isBlankText question = false := by
  rw [accepted?]
  split
  · next h => simp [h, Option.filter_eq_some_iff]
  · next h => simp [h]

/-- The call for the answer to an accepted question. -/
def primaryCall (s : Service σ) (r : Request) (question : String) (store : Session.Store) :
    Call where
  model := (s.optionsFor r).model
  messages :=
    Answer.messages r.language (store.window (Session.resolve r.session) s.window) question
  temperature := (s.optionsFor r).temperature

theorem text_followUp (p : Provider σ) (cool : Number.Single) (o : Answer.Options) (text : String)
    (w : World σ) : (StateT.run (Answer.followUp p cool o text) w).1.text = text := by
  rw [Answer.followUp]
  split
  · rfl
  · rw [Run.run_bind]
    split <;> rfl

/-- The answer to a question is what the model says to the primary call, whatever becomes of the
summary. -/
theorem run_compose (p : Provider σ) (cool : Number.Single) (o : Answer.Options)
    (before : List Session.Turn) (question : String) (w : World σ) :
    ((StateT.run (Answer.compose p cool o before question) w).1).map Answer.text =
      (((p.complete ⟨o.model, Answer.messages o.language before question, o.temperature⟩).run
        w.outside).value).map Answer.textOf := by
  have hask : ∀ c, StateT.run (p.ask c) w = (((p.complete c).run w.outside).value,
      (StateT.run (p.ask c) w).2) := fun c => rfl
  rw [Answer.compose, Run.run_bind, Answer.primary, Run.run_bind, hask]
  cases ((p.complete ⟨o.model, Answer.messages o.language before question, o.temperature⟩).run
      w.outside).value with
  | error e => rfl
  | ok c => exact congrArg Except.ok (text_followUp p cool o (Answer.textOf c) _)

variable [Outside σ]

/-- The world once a question is kept, with its time. -/
def withQuestion (r : Request) (question : String) (w : World σ) : World σ :=
  { w with
    sessions := w.sessions.append (Session.resolve r.session)
      ⟨.user, question, (Outside.now w.outside).1⟩
    outside := (Outside.now w.outside).2 }

/-- What the language model makes of that call, once the question is kept. -/
def primary (s : Service σ) (r : Request) (question : String) (w : World σ) :
    Except Fault Tutor.Reply :=
  ((s.provider.complete (s.primaryCall r question w.sessions)).run
    (withQuestion r question w).outside).value

/-- Composing the answer, once the question is kept, from the turns before it. -/
def composed (s : Service σ) (r : Request) (question : String) (w : World σ) :
    Except Fault Answer × World σ :=
  StateT.run (Answer.compose s.provider s.summaryTemperature (s.optionsFor r)
    (w.sessions.window (Session.resolve r.session) s.window) question) (withQuestion r question w)

theorem text_composed (s : Service σ) (r : Request) (question : String) (w : World σ) :
    (s.composed r question w).1.map Answer.text =
      (s.primary r question w).map Answer.textOf :=
  run_compose s.provider s.summaryTemperature (s.optionsFor r) _ question _

theorem sessions_composed (s : Service σ) (r : Request) (question : String) (w : World σ) :
    (s.composed r question w).2.sessions = (withQuestion r question w).sessions :=
  Answer.keeps_compose World.inner_sessions s.provider s.summaryTemperature (s.optionsFor r) _
    question _

variable {s : Service σ} {r : Request}

/-- An answer is that of the language model, with what goes with it. -/
theorem exists_primary {question : String} {w w₁ : World σ} {a : Answer}
    (h : s.composed r question w = (.ok a, w₁)) :
    ∃ c, s.primary r question w = .ok c ∧ a.text = Answer.textOf c := by
  have htext := s.text_composed r question w
  rw [h] at htext
  cases hprimary : s.primary r question w with
  | error e =>
    rw [hprimary] at htext
    cases htext
  | ok c =>
    rw [hprimary] at htext
    exact ⟨c, rfl, Except.ok.inj htext⟩

/-- A question fails where the language model does. -/
theorem primary_eq_error {question : String} {w w₁ : World σ} {e : Fault}
    (h : s.composed r question w = (.error e, w₁)) : s.primary r question w = .error e := by
  have htext := s.text_composed r question w
  rw [h] at htext
  cases hprimary : s.primary r question w with
  | error e' =>
    rw [hprimary] at htext
    rw [Except.error.inj htext]
  | ok c =>
    rw [hprimary] at htext
    cases htext

theorem run_keep (session : String) (role : Session.Role) (text : String) (w : World σ) :
    StateT.run (keep session role text) w = ((),
      { w with
        sessions := w.sessions.append session ⟨role, text, (Outside.now w.outside).1⟩
        outside := (Outside.now w.outside).2 }) := by
  have htrail : w.trail ++ [] = w.trail := List.append_nil _
  conv_rhs => rw [← htrail]
  rfl

theorem keepsSessions_voice (s : Service σ) (r : Request) (a : Answer) (origin : Speech.Origin) :
    Run.KeepsSessions (s.voice r a origin) := by
  rw [voice]
  split
  · exact s.recorder.keepsSessions_record _ _ _
  · exact .pure _

/-- Delivering an answer keeps it and nothing else. -/
theorem run_deliver (s : Service σ) (r : Request) (session : String) (a : Answer)
    (origin : Speech.Origin) (w : World σ) :
    (StateT.run (s.deliver r session a origin) w).1.text = a.text ∧
      ∃ time, (StateT.run (s.deliver r session a origin) w).2.sessions =
        w.sessions.append session ⟨.assistant, a.text, time⟩ := by
  rw [deliver, Run.run_bind, Run.run_bind, run_keep]
  refine ⟨rfl, (Outside.now w.outside).1, ?_⟩
  -- After the answer is kept, only counters are left besides the audio.
  have hrest : Run.KeepsSessions (do
      let audio ← s.voice r a origin
      Run.count (.voiced audio.label)
      Run.count (.asked .ok)) :=
    (s.keepsSessions_voice r a origin).bind fun _ =>
      (World.inner_sessions.record _).bind fun _ => World.inner_sessions.record _
  exact hrest _

/-! ### Asking -/

/-- How a request goes, and what becomes of the sessions. -/
inductive Asked (s : Service σ) (r : Request) (w : World σ) :
    Except Fault Reply → Session.Store → Prop
  | refused (e : Fault) : s.accepted? r = none → Asked s r w (.error e) w.sessions
  | failed {question : String} {e : Fault} (time : Timestamp) : s.accepted? r = some question →
      s.primary r question w = .error e →
      Asked s r w (.error e) (w.sessions.append (Session.resolve r.session) ⟨.user, question, time⟩)
  | answered {question : String} {c : Tutor.Reply} {reply : Reply} (time time' : Timestamp) :
      s.accepted? r = some question → s.primary r question w = .ok c →
      reply.text = Answer.textOf c →
      Asked s r w (.ok reply)
        ((w.sessions.append (Session.resolve r.session) ⟨.user, question, time⟩).append
          (Session.resolve r.session) ⟨.assistant, reply.text, time'⟩)

/-- A request that is not accepted is refused. -/
theorem run_ask_refused (h : s.accepted? r = none) (origin : Speech.Origin) (w : World σ) :
    ∃ e verdict, StateT.run (s.ask r origin) w =
      (.error e, { w with trail := w.trail ++ [.counted (.asked verdict)] }) := by
  rw [ask]
  split
  · exact ⟨_, _, rfl⟩
  · next hcredential =>
    rw [Bool.not_eq_true, Bool.not_eq_false'] at hcredential
    rw [accepted?, if_pos hcredential] at h
    rw [h]
    exact ⟨_, _, rfl⟩

theorem ask_accepted {question : String} (h : s.accepted? r = some question)
    (origin : Speech.Origin) :
    s.ask r origin = s.answerIn r (Session.resolve r.session) question origin := by
  have hcredential := (accepted?_eq_some_iff.mp h).1
  rw [accepted?, if_pos hcredential] at h
  rw [ask, if_neg (by simp [hcredential]), h]

/-- Answering goes by how the answer is composed. -/
theorem run_answerIn (s : Service σ) (r : Request) (question : String) (origin : Speech.Origin)
    (w : World σ) :
    StateT.run (s.answerIn r (Session.resolve r.session) question origin) w =
      match s.composed r question w with
      | (.error e, w₁) =>
        (.error e, { w₁ with trail := w₁.trail ++ [.counted (.asked .providerError)] })
      | (.ok a, w₁) => (.ok (StateT.run (s.deliver r (Session.resolve r.session) a origin) w₁).1,
          (StateT.run (s.deliver r (Session.resolve r.session) a origin) w₁).2) := by
  have hcontext : StateT.run (s.context (Session.resolve r.session)) w =
      (w.sessions.window (Session.resolve r.session) s.window, w) := rfl
  rw [answerIn, Run.run_bind, hcontext, Run.run_bind, run_keep, Run.run_bind, composed,
    withQuestion]
  generalize StateT.run (Answer.compose _ _ _ _ _) _ = y
  obtain ⟨x, w₁⟩ := y
  cases x with
  | error e => rfl
  | ok a => rfl

/-- Every request goes one of three ways. -/
theorem asked_ask (s : Service σ) (r : Request) (origin : Speech.Origin) (w : World σ) :
    Asked s r w (StateT.run (s.ask r origin) w).1 (StateT.run (s.ask r origin) w).2.sessions := by
  cases haccepted : s.accepted? r with
  | none =>
    obtain ⟨e, verdict, hrun⟩ := run_ask_refused haccepted origin w
    rw [hrun]
    exact .refused e haccepted
  | some question =>
    have hsessions := s.sessions_composed r question w
    rw [ask_accepted haccepted, run_answerIn]
    cases hcomposed : s.composed r question w with
    | mk x w₁ =>
      rw [hcomposed] at hsessions
      dsimp only at hsessions ⊢
      cases x with
      | error e =>
        dsimp only
        rw [hsessions]
        exact .failed _ haccepted (primary_eq_error hcomposed)
      | ok a =>
        obtain ⟨c, hprimary, htext⟩ := exists_primary hcomposed
        obtain ⟨hreply, time, hkept⟩ := run_deliver s r (Session.resolve r.session) a origin w₁
        dsimp only
        rw [hkept, hsessions, ← hreply]
        exact .answered _ time haccepted hprimary (hreply.trans htext)

end Ask.Service

end Tutor
