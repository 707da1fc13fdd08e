import Tutor.Proofs.Ask.Consultation
import Tutor.Proofs.Session.Log

/-!
# The stages of a call

A call of the service does its work in steps, between which others may do theirs: a question is
accepted and the turns before it are read, the question is kept, the model answers, the summary is
made, the answer is kept, and audio is added. Looking at a session and forgetting one take a single
step.

* `Stage`, `advance` – how far a call is, and its next step.
* `run_advances` – the steps of a call one after another are the call.
* `Advanced`, `advanced_advance` – where a step leads a question.
* `operation?`, `sessions_advance` – what a step does to the sessions.
-/

namespace Tutor.Ask

open Tutor.Text

/-- How far a call is. -/
inductive Stage where
  /-- Nothing was done. -/
  | fresh
  /-- A question was accepted, and the turns before it were read. -/
  | informed (question : String) (before : List Session.Turn)
  /-- The question was kept. -/
  | filed (question : String) (before : List Session.Turn)
  /-- The model answered. -/
  | answered (text : String)
  /-- The answer is complete. -/
  | composed (a : Answer)
  /-- The answer was kept. -/
  | delivered (a : Answer)
  /-- The call has returned. -/
  | returned (result : Result)

namespace Service

variable {σ : Type} [Outside σ]

/-- The reply of an answer with its audio. -/
def replyOf (session : String) (a : Answer) (audio : Outcome Speech.Artifact) : Reply where
  text := a.text
  summary := a.summary
  illustration := a.illustration
  audio := audio.value?.map (·.url)
  session
  summaryStage := a.stage
  audioStage := audio

/-- The next step of a call. -/
def advance (s : Service σ) : Step → Stage → Run σ Stage
  | .history session, .fresh => return .returned (.turns (← history session))
  | .forget session, .fresh => do
    forget session
    return .returned .forgotten
  | .ask r _, .fresh => do
    if !s.provider.isConfigured then
      Run.count (.asked .unconfigured)
      return .returned (.asked (.error (.credential s.provider.credential)))
    match r.question.filter fun q => !isBlankText q with
    | none =>
      Run.count (.asked .invalid)
      return .returned (.asked (.error (.request "question is required")))
    | some question => return .informed question (← s.context (Session.resolve r.session))
  | .ask r _, .informed question before => do
    keep (Session.resolve r.session) .user question
    return .filed question before
  | .ask r _, .filed question before => do
    match ← Answer.primary s.provider (s.optionsFor r) before question with
    | .error e =>
      Run.count (.asked .providerError)
      return .returned (.asked (.error e))
    | .ok text => return .answered text
  | .ask r _, .answered text =>
    return .composed (← Answer.followUp s.provider s.summaryTemperature (s.optionsFor r) text)
  | .ask r _, .composed a => do
    Run.count (.simplified a.stage.label)
    keep (Session.resolve r.session) .assistant a.text
    return .delivered a
  | .ask r origin, .delivered a => do
    let audio ← s.voice r a origin
    Run.count (.voiced audio.label)
    Run.count (.asked .ok)
    return .returned (.asked (.ok (replyOf (Session.resolve r.session) a audio)))
  | _, stage => return stage

/-- Steps of a call, one after another. -/
def advances (s : Service σ) (step : Step) : Nat → Stage → Run σ Stage
  | 0, stage => return stage
  | n + 1, stage => do s.advances step n (← s.advance step stage)

theorem advance_returned (s : Service σ) (step : Step) (result : Result) :
    s.advance step (.returned result) = pure (.returned result) := by
  cases step <;> rfl

/-- Once the question is kept, the steps to come are the composing of the answer and its delivery.
-/
theorem run_advances_filed (s : Service σ) (r : Request) (origin : Speech.Origin)
    (question : String) (before : List Session.Turn) (w : World σ) :
    StateT.run (s.advances (.ask r origin) 4 (.filed question before)) w =
      match StateT.run (Answer.compose s.provider s.summaryTemperature (s.optionsFor r) before
          question) w with
      | (.error e, w₁) => (.returned (.asked (.error e)),
          { w₁ with trail := w₁.trail ++ [.counted (.asked .providerError)] })
      | (.ok a, w₁) =>
        (.returned (.asked (.ok
            (StateT.run (s.deliver r (Session.resolve r.session) a origin) w₁).1)),
          (StateT.run (s.deliver r (Session.resolve r.session) a origin) w₁).2) := by
  rw [advances, Run.run_bind, advance, Run.run_bind, Answer.compose, Run.run_bind]
  generalize StateT.run (Answer.primary s.provider (s.optionsFor r) before question) w = y
  obtain ⟨x, w₁⟩ := y
  cases x with
  | error e => rfl
  | ok text => rfl

theorem run_advances_ask (s : Service σ) (r : Request) (origin : Speech.Origin) (w : World σ) :
    StateT.run (s.advances (.ask r origin) 6 .fresh) w =
      (.returned (.asked (StateT.run (s.ask r origin) w).1),
        (StateT.run (s.ask r origin) w).2) := by
  cases hconfigured : s.provider.isConfigured with
  | false =>
    rw [ask, advances, Run.run_bind, advance, hconfigured]
    rfl
  | true =>
    cases hquestion : r.question.filter fun q => !isBlankText q with
    | none =>
      rw [ask, advances, Run.run_bind, advance, hconfigured, hquestion]
      rfl
    | some question =>
      have haccepted : s.accepted? r = some question := by
        rw [accepted?, if_pos hconfigured, hquestion]
      -- The first two steps read the turns before the question, and keep it.
      have hsteps : StateT.run (s.advances (.ask r origin) 6 .fresh) w =
          StateT.run (s.advances (.ask r origin) 4 (.filed question
            (w.sessions.window (Session.resolve r.session) s.window)))
            (StateT.run (keep (Session.resolve r.session) .user question) w).2 := by
        rw [advances, Run.run_bind, advance, hconfigured, hquestion]
        rfl
      rw [hsteps, run_advances_filed, ask_accepted haccepted, run_answerIn, run_keep, composed,
        withQuestion]
      generalize StateT.run (Answer.compose _ _ _ _ _) _ = y
      obtain ⟨x, w₁⟩ := y
      cases x with
      | error e => rfl
      | ok a => rfl

/-- The steps of a call, made one after another with none of others between them, are the call. -/
theorem run_advances (s : Service σ) (step : Step) (w : World σ) :
    StateT.run (s.advances step 6 .fresh) w =
      (.returned (StateT.run (s.perform step) w).1, (StateT.run (s.perform step) w).2) := by
  cases step with
  | ask r origin => exact s.run_advances_ask r origin w
  | history session => rfl
  | forget session => rfl

/-! ### Where a step leads a question -/

/-- The call for the answer to a question, after some turns. -/
def questionCall (s : Service σ) (r : Request) (before : List Session.Turn) (question : String) :
    Call where
  model := (s.optionsFor r).model
  messages := Answer.messages r.language before question
  temperature := (s.optionsFor r).temperature

/-- What the model makes of that call. -/
def answerTo (s : Service σ) (r : Request) (before : List Session.Turn) (question : String)
    (w : World σ) : Except Fault Tutor.Reply :=
  ((s.provider.complete (s.questionCall r before question)).run w.outside).value

/-- The stage that a question comes to with its next step, in a world. -/
inductive Advanced (s : Service σ) (r : Request) (w : World σ) : Stage → Stage → Prop
  | refused (e : Fault) : s.accepted? r = none →
      Advanced s r w .fresh (.returned (.asked (.error e)))
  | read {question : String} : s.accepted? r = some question →
      Advanced s r w .fresh
        (.informed question (w.sessions.window (Session.resolve r.session) s.window))
  | filed (question : String) (before : List Session.Turn) :
      Advanced s r w (.informed question before) (.filed question before)
  | failed {question : String} {before : List Session.Turn} {e : Fault} :
      s.answerTo r before question w = .error e →
      Advanced s r w (.filed question before) (.returned (.asked (.error e)))
  | answered {question : String} {before : List Session.Turn} {c : Tutor.Reply} :
      s.answerTo r before question w = .ok c →
      Advanced s r w (.filed question before) (.answered (Answer.textOf c))
  | composed (a : Answer) : Advanced s r w (.answered a.text) (.composed a)
  | delivered (a : Answer) : Advanced s r w (.composed a) (.delivered a)
  | replied {a : Answer} (reply : Reply) : reply.text = a.text →
      Advanced s r w (.delivered a) (.returned (.asked (.ok reply)))
  | idle (result : Result) : Advanced s r w (.returned result) (.returned result)

theorem advanced_fresh (s : Service σ) (r : Request) (origin : Speech.Origin) (w : World σ) :
    Advanced s r w .fresh (StateT.run (s.advance (.ask r origin) .fresh) w).1 := by
  rw [advance]
  cases hconfigured : s.provider.isConfigured with
  | false => exact .refused _ (by simp [accepted?, hconfigured])
  | true =>
    cases hquestion : r.question.filter fun q => !isBlankText q with
    | none => exact .refused _ (by simp [accepted?, hquestion])
    | some question => exact .read (by simp [accepted?, hconfigured, hquestion])

theorem advanced_filed (s : Service σ) (r : Request) (origin : Speech.Origin) (question : String)
    (before : List Session.Turn) (w : World σ) :
    Advanced s r w (.filed question before)
      (StateT.run (s.advance (.ask r origin) (.filed question before)) w).1 := by
  have hvalue : (StateT.run (Answer.primary s.provider (s.optionsFor r) before question) w).1 =
      (s.answerTo r before question w).map Answer.textOf :=
    Answer.value_primary s.provider (s.optionsFor r) before question w
  rw [advance, Run.run_bind, hvalue]
  cases hanswer : s.answerTo r before question w with
  | error e => exact .failed hanswer
  | ok c => exact .answered hanswer

theorem advanced_advance (s : Service σ) (r : Request) (origin : Speech.Origin) (stage : Stage)
    (w : World σ) : Advanced s r w stage (StateT.run (s.advance (.ask r origin) stage) w).1 := by
  cases stage with
  | fresh => exact s.advanced_fresh r origin w
  | informed question before => exact .filed question before
  | filed question before => exact s.advanced_filed r origin question before w
  | answered text =>
    have hrun : (StateT.run (s.advance (.ask r origin) (.answered text)) w).1 =
        .composed (StateT.run (Answer.followUp s.provider s.summaryTemperature (s.optionsFor r)
          text) w).1 := rfl
    have htext := text_followUp s.provider s.summaryTemperature (s.optionsFor r) text w
    rw [hrun]
    generalize (StateT.run (Answer.followUp _ _ _ text) w).1 = a at htext ⊢
    rw [← htext]
    exact .composed a
  | composed a => exact .delivered a
  | delivered a => exact .replied _ rfl
  | returned result =>
    rw [advance_returned]
    exact .idle result

/-! ### What a step does to the sessions -/

/-- What the next step of a call does to the sessions, if it does anything. -/
def operation? (s : Service σ) (step : Step) (stage : Stage) (w : World σ) :
    Option Session.Operation :=
  match step, stage with
  | .history session, .fresh => some (.get (Session.resolve session))
  | .forget session, .fresh => some (.clear (Session.resolve session))
  | .ask r _, .fresh => (s.accepted? r).map fun _ => .window (Session.resolve r.session) s.window
  | .ask r _, .informed question _ =>
    some (.append (Session.resolve r.session) ⟨.user, question, (Outside.now w.outside).1⟩)
  | .ask r _, .composed a =>
    some (.append (Session.resolve r.session) ⟨.assistant, a.text, (Outside.now w.outside).1⟩)
  | _, _ => none

theorem sessions_advance_fresh (s : Service σ) (r : Request) (origin : Speech.Origin)
    (w : World σ) :
    (StateT.run (s.advance (.ask r origin) .fresh) w).2.sessions =
      w.sessions.after (s.operation? (.ask r origin) .fresh w).toList := by
  have hread : w.sessions.after (s.operation? (.ask r origin) .fresh w).toList = w.sessions := by
    dsimp only [operation?]
    cases s.accepted? r <;> rfl
  rw [hread, advance]
  cases s.provider.isConfigured with
  | false => rfl
  | true => cases r.question.filter fun q => !isBlankText q <;> rfl

theorem sessions_advance (s : Service σ) (step : Step) (stage : Stage) (w : World σ) :
    (StateT.run (s.advance step stage) w).2.sessions =
      w.sessions.after (s.operation? step stage w).toList := by
  cases step with
  | history session => cases stage <;> rfl
  | forget session => cases stage <;> rfl
  | ask r origin =>
    cases stage with
    | fresh => exact s.sessions_advance_fresh r origin w
    | informed question before => rfl
    | filed question before =>
      have hkeeps : Run.KeepsSessions (s.advance (.ask r origin) (.filed question before)) := by
        refine .bind (Answer.keeps_primary World.inner_sessions _ _ _ _) fun x => ?_
        cases x with
        | error e => exact .bind (World.inner_sessions.record _) fun _ => .pure _
        | ok text => exact .pure _
      exact hkeeps w
    | answered text => exact Answer.keeps_followUp World.inner_sessions _ _ _ text w
    | composed a => rfl
    | delivered a =>
      have hkeeps : Run.KeepsSessions (s.advance (.ask r origin) (.delivered a)) :=
        (s.keepsSessions_voice r a origin).bind fun _ =>
          (World.inner_sessions.record _).bind fun _ =>
            (World.inner_sessions.record _).bind fun _ => .pure _
      exact hkeeps w
    | returned result => rfl

end Service

end Tutor.Ask
