import Tutor.Proofs.Ask.Independence
import Tutor.Proofs.Ask.Stages

/-!
# What one session learns of the others

Nothing. If a service is called for one session only, and the language model gives what it gave
before, then the calls for that session go as they went when the service was called for others as
well: the model is told the same, and the same is returned. Audio and times are left out of account.

* `Step.session` – the session that a call is for.
* `given`, `observed` – what the language model gives for a call, and what is seen of the call.
* `SameSetup`, `SameSetup.perform` – one call, to two services.
* `Isolated`, `isolated_after` – all calls for a session, with and without those for others.
-/

namespace Tutor

namespace Answer

/-- An answer with what the language model makes of its summary. -/
def summarised (text : String) : Except Fault Tutor.Reply → Answer
  | .ok c =>
    { text
      summary := (Simplified.ofText c.text).summary
      illustration := (Simplified.ofText c.text).illustration
      stage := .completed () }
  | .error e => { text, stage := .degraded e.message }

variable {σ : Type}

theorem outside_primary (p : Provider σ) (o : Options) (before : List Session.Turn)
    (question : String) (w : World σ) :
    (StateT.run (primary p o before question) w).2.outside =
      ((p.complete ⟨o.model, messages o.language before question, o.temperature⟩).run
        w.outside).outside := by
  rw [primary, Run.run_bind, p.value_ask]
  cases ((p.complete ⟨o.model, messages o.language before question, o.temperature⟩).run
      w.outside).value with
  | ok c => rfl
  | error e => rfl

theorem value_followUp (p : Provider σ) (cool : Number.Single) (o : Options) (text : String)
    (w : World σ) :
    (StateT.run (followUp p cool o text) w).1 =
      if o.simplify then
        summarised text (((p.complete ⟨o.model, summaryMessages o.language text, cool⟩).run
          w.outside).value)
      else { text, stage := .skipped } := by
  rw [followUp]
  cases o.simplify with
  | false => rfl
  | true =>
    simp only [Bool.not_true, Bool.false_eq_true, if_false, if_true]
    rw [Run.run_bind, p.value_ask]
    cases ((p.complete ⟨o.model, summaryMessages o.language text, cool⟩).run w.outside).value with
    | ok c => rfl
    | error e => rfl

end Answer

namespace Ask

open Tutor.Text

/-! ### What is seen of a call -/

/-- The session that a call is for. -/
def Step.session : Step → String
  | .ask r _ => Session.resolve r.session
  | .history session | .forget session => Session.resolve session

/-- A reply without its audio. -/
def Reply.withoutAudio (a : Reply) : Reply := { a with audio := none, audioStage := .skipped }

theorem map_text_withoutAudio (x : Except Fault Reply) :
    (x.map Reply.withoutAudio).map Reply.text = x.map Reply.text := by
  cases x <;> rfl

/-- What a call shows: audio and times are left out. -/
inductive Shown where
  /-- A reply, or the fault of the question. -/
  | asked (x : Except Fault Reply)
  /-- The turns of a session. -/
  | turns (turns : List (Session.Role × String))
  /-- Nothing. -/
  | forgotten

/-- What a result shows. -/
def Result.shown : Result → Shown
  | .asked x => .asked (x.map Reply.withoutAudio)
  | .turns all => .turns (all.map said)
  | .forgotten => .forgotten

namespace Service

section OneCall

variable {σ : Type} [Outside σ]

/-- What the language model makes of the call for a summary, after that for the answer. -/
def secondary (s : Service σ) (r : Request) (question text : String) (w : World σ) :
    Except Fault Tutor.Reply :=
  ((s.provider.complete (s.summaryCall r text)).run
    ((s.provider.complete (s.primaryCall r question w.sessions)).run
      (withQuestion r question w).outside).outside).value

/-- What the language model gives for a call of the service, one after another. -/
def given (s : Service σ) (x : Entry σ) : List (Except Fault Tutor.Reply) :=
  match x.step with
  | .ask r _ =>
    match s.accepted? r with
    | none => []
    | some question =>
      s.primary r question x.before ::
        match s.primary r question x.before with
        | .ok c =>
          if r.simplify then [s.secondary r question (Answer.textOf c) x.before] else []
        | .error _ => []
  | _ => []

/-- What is seen of a call of the service: what the language model is told, and what is returned. -/
def observed (s : Service σ) (x : Entry σ) : List Call × Shown :=
  ((StateT.run (s.perform x.step) x.before).2.calls.drop x.before.calls.length, x.result.shown)

theorem observed_eq (s : Service σ) (x : Entry σ) :
    s.observed x = (s.consultation x, x.result.shown) := by
  rw [observed, calls_perform s x.step x.before x.result, List.drop_left]

theorem value_composed (s : Service σ) (r : Request) (question : String) (w : World σ) :
    (s.composed r question w).1 = (s.primary r question w).map fun c =>
      if r.simplify then
        Answer.summarised (Answer.textOf c) (s.secondary r question (Answer.textOf c) w)
      else { text := Answer.textOf c, stage := .skipped } := by
  have hprimary : (StateT.run (Answer.primary s.provider (s.optionsFor r)
        (w.sessions.window (Session.resolve r.session) s.window) question)
        (withQuestion r question w)).1 = (s.primary r question w).map Answer.textOf :=
    Answer.value_primary ..
  rw [composed, Answer.compose, Run.run_bind, hprimary]
  cases s.primary r question w with
  | error e => rfl
  | ok c =>
    refine congrArg Except.ok ((Answer.value_followUp ..).trans ?_)
    rw [Answer.outside_primary]
    rfl

theorem shown_ask (s : Service σ) (r : Request) (origin : Speech.Origin) (w : World σ) :
    (StateT.run (s.ask r origin) w).1.map Reply.withoutAudio =
      match s.accepted? r with
      | none => .error s.refusal
      | some question => (s.composed r question w).1.map fun a =>
        replyOf (Session.resolve r.session) a .skipped := by
  cases haccepted : s.accepted? r with
  | none =>
    rw [ask_refused haccepted]
    rfl
  | some question =>
    rw [ask_accepted haccepted, run_answerIn]
    dsimp only
    generalize s.composed r question w = y
    obtain ⟨x, w₁⟩ := y
    cases x with
    | error e => rfl
    | ok a => rfl

end OneCall

/-! ### One call, to two services -/

/-- Two services that are set up alike, apart from what speaks. -/
structure SameSetup {σ₁ σ₂ : Type} (s₁ : Service σ₁) (s₂ : Service σ₂) : Prop where
  isConfigured : s₁.provider.isConfigured = s₂.provider.isConfigured
  credential : s₁.provider.credential = s₂.provider.credential
  model : s₁.model = s₂.model
  temperature : s₁.temperature = s₂.temperature
  summaryTemperature : s₁.summaryTemperature = s₂.summaryTemperature
  window : s₁.window = s₂.window

section TwoCalls

variable {σ₁ σ₂ : Type} {s₁ : Service σ₁} {s₂ : Service σ₂} {r : Request} {step : Step}
  {w₁ : World σ₁} {w₂ : World σ₂} {name : String}

theorem SameSetup.accepted? (h : SameSetup s₁ s₂) (r : Request) :
    s₁.accepted? r = s₂.accepted? r := by
  rw [Service.accepted?, Service.accepted?, h.isConfigured]

theorem SameSetup.refusal (h : SameSetup s₁ s₂) : s₁.refusal = s₂.refusal := by
  rw [Service.refusal, Service.refusal, h.isConfigured, h.credential]

theorem SameSetup.primaryCall (h : SameSetup s₁ s₂)
    (hturns : (w₁.sessions.turns (Session.resolve r.session)).map said =
      (w₂.sessions.turns (Session.resolve r.session)).map said) (question : String) :
    s₁.primaryCall r question w₁.sessions = s₂.primaryCall r question w₂.sessions := by
  have hcontext := messages_window hturns s₂.window
  simp only [Service.primaryCall, optionsFor, Answer.messages, h.model, h.temperature, h.window,
    hcontext]

theorem SameSetup.summaryCall (h : SameSetup s₁ s₂) (r : Request) (text : String) :
    s₁.summaryCall r text = s₂.summaryCall r text := by
  simp only [Service.summaryCall, optionsFor, h.model, h.summaryTemperature]

variable [Outside σ₁] [Outside σ₂]

/-- The calls for a question, and its result, are told by what the language model gives. -/
theorem SameSetup.ask (h : SameSetup s₁ s₂) (origin : Speech.Origin)
    (hturns : (w₁.sessions.turns (Session.resolve r.session)).map said =
      (w₂.sessions.turns (Session.resolve r.session)).map said) {result₁ result₂ : Result}
    (hgiven : s₁.given ⟨w₁, .ask r origin, result₁⟩ = s₂.given ⟨w₂, .ask r origin, result₂⟩) :
    s₁.consultation ⟨w₁, .ask r origin, result₁⟩ = s₂.consultation ⟨w₂, .ask r origin, result₂⟩ ∧
      (StateT.run (s₁.ask r origin) w₁).1.map Reply.withoutAudio =
        (StateT.run (s₂.ask r origin) w₂).1.map Reply.withoutAudio := by
  rw [shown_ask, shown_ask, ← h.accepted?, ← h.refusal]
  dsimp only [given, consultation] at hgiven ⊢
  rw [← h.accepted?] at hgiven ⊢
  cases haccepted : s₁.accepted? r with
  | none => exact ⟨rfl, rfl⟩
  | some question =>
    rw [haccepted] at hgiven
    dsimp only at hgiven ⊢
    rw [value_composed, value_composed, h.primaryCall hturns]
    obtain ⟨hprimary, hmore⟩ := List.cons.inj hgiven
    rw [← hprimary] at hmore ⊢
    cases hvalue : s₁.primary r question w₁ with
    | error e => exact ⟨rfl, rfl⟩
    | ok c =>
      rw [hvalue] at hmore
      dsimp only at hmore ⊢
      cases hsimplify : r.simplify with
      | false => exact ⟨rfl, rfl⟩
      | true =>
        rw [hsimplify, if_pos rfl, if_pos rfl] at hmore
        rw [h.summaryCall, Except.map, Except.map, (List.cons.inj hmore).1]
        exact ⟨rfl, rfl⟩

/-- What is seen of a call for a session is told by what was said in the session, and by what the
language model gives; and so is what is said there afterwards. -/
theorem SameSetup.perform (h : SameSetup s₁ s₂) (step : Step)
    (hturns : (w₁.sessions.turns step.session).map said =
      (w₂.sessions.turns step.session).map said)
    (hgiven : s₁.given ⟨w₁, step, (StateT.run (s₁.perform step) w₁).1⟩ =
      s₂.given ⟨w₂, step, (StateT.run (s₂.perform step) w₂).1⟩) :
    s₁.observed ⟨w₁, step, (StateT.run (s₁.perform step) w₁).1⟩ =
        s₂.observed ⟨w₂, step, (StateT.run (s₂.perform step) w₂).1⟩ ∧
      ((StateT.run (s₁.perform step) w₁).2.sessions.turns step.session).map said =
        ((StateT.run (s₂.perform step) w₂).2.sessions.turns step.session).map said := by
  rw [observed_eq, observed_eq]
  cases step with
  | ask r origin =>
    obtain ⟨hcalls, hresult⟩ := h.ask origin hturns hgiven
    have htext := congrArg (Except.map Reply.text) hresult
    rw [map_text_withoutAudio, map_text_withoutAudio] at htext
    have hsaid := saidIn_congr rfl (h.accepted? r) htext origin origin w₁ w₂
      (Session.resolve r.session)
    refine ⟨?_, ?_⟩
    · exact congrArg₂ Prod.mk hcalls (congrArg Shown.asked hresult)
    · have hafter₁ := said_ask s₁ r origin w₁ (Session.resolve r.session)
      have hafter₂ := said_ask s₂ r origin w₂ (Session.resolve r.session)
      rw [hsaid] at hafter₁
      exact hafter₁.trans ((congrArg (· ++ _) hturns).trans hafter₂.symm)
  | history session => exact ⟨congrArg (fun all => ([], Shown.turns all)) hturns, hturns⟩
  | forget session =>
    refine ⟨rfl, ?_⟩
    have hclear : ∀ store : Session.Store, ((store.clear (Session.resolve session)).turns
        (Session.resolve session)).map said = [] := by simp
    exact (hclear _).trans (hclear _).symm

/-- A call for another session leaves a session alone. -/
theorem said_perform_of_ne {σ : Type} [Outside σ] (s : Service σ) {step : Step} (w : World σ)
    (h : step.session ≠ name) :
    ((StateT.run (s.perform step) w).2.sessions.turns name).map said =
      (w.sessions.turns name).map said := by
  rw [turns_perform]
  cases step with
  | ask r origin =>
    have hsaid : ∀ x, s.saidIn name ⟨w, .ask r origin, .asked x⟩ = [] := fun x => if_neg h
    exact (congrArg _ (hsaid _)).trans (List.append_nil _)
  | history session => exact List.append_nil _
  | forget session =>
    have hforgets : ∀ x, Entry.forgets name (⟨w, .forget session, x⟩ : Entry σ) = false :=
      fun x => beq_eq_false_iff_ne.mpr h
    rw [hforgets]
    exact List.append_nil _

end TwoCalls

/-! ### All calls for a session -/

/-- Whether a call is for a session. -/
def isFor (name : String) (step : Step) : Bool := step.session == name

/-- What a run shows in a session does not depend on the calls for others: `log₁` tells of calls for
all sessions, and `log₂` of those for one. -/
structure Isolated {σ₁ σ₂ : Type} [Outside σ₁] [Outside σ₂] (s₁ : Service σ₁) (s₂ : Service σ₂)
    (name : String) (log₁ : List (Entry σ₁)) (log₂ : List (Entry σ₂)) (w₁ : World σ₁)
    (w₂ : World σ₂) : Prop where
  /-- The calls that are left are those for the session. -/
  steps : (log₁.map Entry.step).filter (isFor name) = log₂.map Entry.step
  /-- For each of them the language model is told the same, and the same is returned. -/
  observed : (log₁.filter fun x => isFor name x.step).map s₁.observed = log₂.map s₂.observed
  /-- The session tells the same afterwards. -/
  history : (w₁.sessions.turns name).map said = (w₂.sessions.turns name).map said

/-- The calls for one session show the same without those for other sessions, if the language model
gives the same for them. By induction on the calls: before each of them, the session tells the
same. -/
theorem isolated_after {σ₁ σ₂ : Type} [Outside σ₁] [Outside σ₂] {s₁ : Service σ₁}
    {s₂ : Service σ₂} (h : SameSetup s₁ s₂) (name : String) (steps : List Step) {w₁ : World σ₁}
    {w₂ : World σ₂}
    (hturns : (w₁.sessions.turns name).map said = (w₂.sessions.turns name).map said)
    (hgiven : ((s₁.log steps w₁).filter fun x => isFor name x.step).map s₁.given =
      (s₂.log (steps.filter (isFor name)) w₂).map s₂.given) :
    Isolated s₁ s₂ name (s₁.log steps w₁) (s₂.log (steps.filter (isFor name)) w₂)
      (s₁.after steps w₁) (s₂.after (steps.filter (isFor name)) w₂) := by
  induction steps generalizing w₁ w₂ with
  | nil => exact ⟨rfl, rfl, hturns⟩
  | cons step steps ih =>
    cases hfor : isFor name step with
    | true =>
      -- Both services are called.
      obtain rfl : step.session = name := beq_iff_eq.mp hfor
      simp only [log, List.filter_cons, hfor, if_true, List.map_cons] at hgiven ⊢
      obtain ⟨hfirst, hrest⟩ := List.cons.inj hgiven
      obtain ⟨hobserved, hnext⟩ := h.perform step hturns hfirst
      obtain ⟨hsteps, hmore, hhistory⟩ := ih hnext hrest
      refine ⟨?_, ?_, hhistory⟩
      · simp only [List.map_cons, List.filter_cons, hfor, if_true, hsteps]
      · simp only [List.map_cons, List.filter_cons, hfor, if_true, hobserved, hmore]
    | false =>
      -- Only the first service is called, and the session does not notice.
      have hne := beq_eq_false_iff_ne.mp hfor
      simp only [log, List.filter_cons, hfor, Bool.false_eq_true, if_false] at hgiven ⊢
      have hsame := said_perform_of_ne s₁ w₁ hne
      obtain ⟨hsteps, hmore, hhistory⟩ := ih (hsame.trans hturns) hgiven
      refine ⟨?_, ?_, hhistory⟩
      · simp only [List.map_cons, List.filter_cons, hfor, Bool.false_eq_true, if_false, hsteps]
      · simp only [List.filter_cons, hfor, Bool.false_eq_true, if_false, hmore]

/-- Two learners ask in turn, one of them under all names of the shared session. The language model
answers with a number by chance; without the other learner, fewer are drawn. -/
theorem isolated_of_two_learners :
    let chance : Provider Replay :=
      { isConfigured := true
        complete := fun _ => do return .ok ⟨⟨.assistant, toString (← Errand.draw)⟩, none⟩ }
    let s : Service Replay := .around {} chance (synthesizerOf {})
    let ask : String → Option String → Step := fun question session =>
      .ask { question := some question, session, playAudio := false } {}
    let steps := [ask "Why?" none, ask "How?" (some "b"), .history (some ""), .forget (some "b"),
      ask "When?" (some "global"), .history none]
    let w₁ : World Replay :=
      { outside := ⟨[.time ⟨1, 0⟩, .number 1, .number 2, .time ⟨2, 0⟩, .time ⟨3, 0⟩, .number 3,
          .number 4, .time ⟨4, 0⟩, .time ⟨5, 0⟩, .number 5, .number 6, .time ⟨6, 0⟩], none⟩ }
    let w₂ : World Replay :=
      { outside := ⟨[.time ⟨1, 0⟩, .number 1, .number 2, .time ⟨2, 0⟩, .time ⟨9, 0⟩, .number 5,
          .number 6, .time ⟨9, 0⟩], none⟩ }
    SameSetup s s ∧
    ((w₁.sessions.turns "global").map said = (w₂.sessions.turns "global").map said) ∧
    (((s.log steps w₁).filter fun x => isFor "global" x.step).map s.given =
      (s.log (steps.filter (isFor "global")) w₂).map s.given) ∧
    Isolated s s "global" (s.log steps w₁) (s.log (steps.filter (isFor "global")) w₂)
      (s.after steps w₁) (s.after (steps.filter (isFor "global")) w₂) := by
  intro chance s ask steps w₁ w₂
  have hsetup : SameSetup s s := ⟨rfl, rfl, rfl, rfl, rfl, rfl⟩
  have hturns : (w₁.sessions.turns "global").map said = (w₂.sessions.turns "global").map said := rfl
  have hgiven : ((s.log steps w₁).filter fun x => isFor "global" x.step).map s.given =
      (s.log (steps.filter (isFor "global")) w₂).map s.given := by
    decide +kernel
  exact ⟨hsetup, hturns, hgiven, isolated_after hsetup "global" steps hturns hgiven⟩

end Service

end Ask

end Tutor
