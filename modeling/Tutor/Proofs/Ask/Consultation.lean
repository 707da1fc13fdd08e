import Tutor.Proofs.Ask.History
import Tutor.Proofs.Speech.Trail

/-!
# What the language model is told

An accepted question takes one call of the language model, or two. The first has the tutor's
persona, the last turns of the session before the question, and the question. The second is made
exactly if the first succeeded and a summary is wanted, and tells nothing but the answer. Nothing
else calls the model.

* `Message.Tells` – the message that a turn of the session becomes.
* `calls_compose` – the calls that composing an answer makes.
* `consultation`, `calls_perform`, `calls_after` – the calls of one call of the service, and of all.
* `Consulted` – what these calls are, in every run.
-/

namespace Tutor

variable {σ : Type}

/-! ### Messages -/

/-- A message tells a turn: the learner's as the user's, the tutor's as the assistant's, and the
words as they were said. -/
inductive Message.Tells : Session.Turn → Message → Prop
  | question (text : String) (time : Timestamp) : Tells ⟨.user, text, time⟩ ⟨.user, text⟩
  | answer (text : String) (time : Timestamp) : Tells ⟨.assistant, text, time⟩ ⟨.assistant, text⟩

theorem Message.tells_ofTurn (t : Session.Turn) : Message.Tells t (Message.ofTurn t) := by
  obtain ⟨role, text, time⟩ := t
  cases role with
  | user => exact .question text time
  | assistant => exact .answer text time

theorem Message.forall₂_tells (turns : List Session.Turn) :
    List.Forall₂ Message.Tells turns (turns.map Message.ofTurn) :=
  List.forall₂_map_right_iff.mpr (List.forall₂_same.mpr fun t _ => tells_ofTurn t)

namespace Prompt

/-- The persona is the same words for every language, with its name in two places. -/
theorem exists_persona : ∃ before between after, ∀ language,
    persona language = before ++ language ++ between ++ language ++ after :=
  ⟨_, _, _, fun _ => rfl⟩

/-- The request for a summary names the language and ends with the answer as it stands. -/
theorem exists_summaryRequest : ∃ before between, ∀ language answer,
    summaryRequest language answer = before ++ language ++ between ++ answer :=
  ⟨"In ", ", provide a very short (2-3 sentence) summary of the following answer, " ++
    "followed by a one-sentence real-world example. Separate the summary and the example with a " ++
    "blank line. Answer: ", fun language answer => by
      simp only [summaryRequest, String.append_assoc]⟩

end Prompt

/-! ### Composing an answer -/

theorem Provider.calls_ask (p : Provider σ) (c : Call) (w : World σ) :
    (StateT.run (p.ask c) w).2.calls = w.calls ++ [c] := by
  have htrail : (StateT.run (p.ask c) w).2.trail =
      (w.trail ++ [.called c]) ++ ((p.complete c).run w.outside).sent.map Event.sent := rfl
  rw [World.calls, htrail, List.filterMap_append, filterMap_call?_sent, List.append_nil,
    List.filterMap_append]
  rfl

theorem Provider.value_ask (p : Provider σ) (c : Call) (w : World σ) :
    (StateT.run (p.ask c) w).1 = ((p.complete c).run w.outside).value := rfl

namespace Answer

variable (p : Provider σ) (cool : Number.Single) (o : Options)

theorem value_primary (before : List Session.Turn) (question : String) (w : World σ) :
    (StateT.run (primary p o before question) w).1 =
      (((p.complete ⟨o.model, messages o.language before question, o.temperature⟩).run
        w.outside).value).map textOf := by
  rw [primary, Run.run_bind, ← p.value_ask]
  cases (StateT.run (p.ask ⟨o.model, messages o.language before question, o.temperature⟩) w).1 with
  | ok c => rfl
  | error e => rfl

theorem calls_primary (before : List Session.Turn) (question : String) (w : World σ) :
    (StateT.run (primary p o before question) w).2.calls =
      w.calls ++ [⟨o.model, messages o.language before question, o.temperature⟩] := by
  rw [primary, Run.run_bind, ← p.calls_ask]
  cases (StateT.run (p.ask ⟨o.model, messages o.language before question, o.temperature⟩) w).1 with
  | ok c => rfl
  | error e => rfl

theorem calls_followUp (text : String) (w : World σ) :
    (StateT.run (followUp p cool o text) w).2.calls =
      w.calls ++ if o.simplify then [⟨o.model, summaryMessages o.language text, cool⟩] else [] := by
  rw [followUp]
  cases o.simplify with
  | false => exact (List.append_nil _).symm
  | true =>
    simp only [Bool.not_true, Bool.false_eq_true, if_false, if_true]
    rw [Run.run_bind, ← p.calls_ask]
    cases (StateT.run (p.ask ⟨o.model, summaryMessages o.language text, cool⟩) w).1 with
    | ok c => rfl
    | error e => rfl

/-- Composing an answer calls the model for the answer, and once more for the summary if there is an
answer and a summary is wanted. -/
theorem calls_compose (before : List Session.Turn) (question : String) (w : World σ) :
    (StateT.run (compose p cool o before question) w).2.calls =
      w.calls ++ ⟨o.model, messages o.language before question, o.temperature⟩ ::
        match ((p.complete ⟨o.model, messages o.language before question, o.temperature⟩).run
            w.outside).value with
        | .ok c =>
          if o.simplify then [⟨o.model, summaryMessages o.language (textOf c), cool⟩] else []
        | .error _ => [] := by
  have hcalls := calls_primary p o before question w
  rw [compose, Run.run_bind, value_primary]
  cases ((p.complete ⟨o.model, messages o.language before question, o.temperature⟩).run
      w.outside).value with
  | error e => exact hcalls
  | ok c =>
    have hfollow := calls_followUp p cool o (textOf c)
      (StateT.run (primary p o before question) w).2
    rw [hcalls, List.append_assoc] at hfollow
    exact hfollow

end Answer

namespace Ask.Service

open Tutor.Text

/-! ### One call of the service -/

/-- The call for the summary of an answer. -/
def summaryCall (s : Service σ) (r : Request) (text : String) : Call where
  model := (s.optionsFor r).model
  messages := Answer.summaryMessages r.language text
  temperature := s.summaryTemperature

variable [Outside σ]

theorem calls_composed (s : Service σ) (r : Request) (question : String) (w : World σ) :
    (s.composed r question w).2.calls = w.calls ++ s.primaryCall r question w.sessions ::
      match s.primary r question w with
      | .ok c => if r.simplify then [s.summaryCall r (Answer.textOf c)] else []
      | .error _ => [] :=
  Answer.calls_compose s.provider s.summaryTemperature (s.optionsFor r) _ question
    (withQuestion r question w)

theorem keepsCalls_voice (s : Service σ) (r : Request) (a : Answer) (origin : Speech.Origin) :
    Run.Keeps World.calls (s.voice r a origin) := by
  have hadds : Run.Adds Event.ofAudio (s.voice r a origin) := by
    rw [voice]
    split
    · exact s.recorder.adds_record _ _ _
    · exact .pure _
  apply Run.keeps_calls hadds
  intro e he
  cases e with
  | called c => cases he
  | _ => rfl

omit [Outside σ] in
theorem keepsCalls_count (c : Counter) : Run.Keeps World.calls (Run.count c : Run σ Unit) := by
  intro w
  have hrun : StateT.run (Run.count c) w = ((), { w with trail := w.trail ++ [.counted c] }) := rfl
  rw [hrun, World.calls, List.filterMap_append]
  exact List.append_nil _

theorem keepsCalls_keep (session : String) (role : Session.Role) (text : String) :
    Run.Keeps World.calls (keep session role text : Run σ Unit) := by
  intro w
  rw [run_keep]
  rfl

/-- Delivering an answer calls nobody. -/
theorem keepsCalls_deliver (s : Service σ) (r : Request) (session : String) (a : Answer)
    (origin : Speech.Origin) : Run.Keeps World.calls (s.deliver r session a origin) := by
  refine .bind (keepsCalls_count _) fun _ => ?_
  refine .bind (keepsCalls_keep _ _ _) fun _ => ?_
  refine .bind (s.keepsCalls_voice r a origin) fun audio => ?_
  refine .bind (keepsCalls_count _) fun _ => ?_
  exact .bind (keepsCalls_count _) fun _ => .pure _

/-- The calls of the language model that a call of the service makes. -/
def consultation (s : Service σ) (x : Entry σ) : List Call :=
  match x.step with
  | .ask r _ =>
    match s.accepted? r with
    | none => []
    | some question =>
      s.primaryCall r question x.before.sessions ::
        match s.primary r question x.before with
        | .ok c => if r.simplify then [s.summaryCall r (Answer.textOf c)] else []
        | .error _ => []
  | _ => []

variable {s : Service σ} {steps : List Step} {w : World σ}

theorem calls_perform (s : Service σ) (step : Step) (w : World σ) (result : Result) :
    (StateT.run (s.perform step) w).2.calls = w.calls ++ s.consultation ⟨w, step, result⟩ := by
  cases step with
  | ask r origin =>
    have hrun : (StateT.run (s.perform (.ask r origin)) w).2 = (StateT.run (s.ask r origin) w).2 :=
      rfl
    rw [hrun]
    dsimp only [consultation]
    cases haccepted : s.accepted? r with
    | none =>
      obtain ⟨e, verdict, hask⟩ := run_ask_refused haccepted origin w
      rw [hask, World.calls, List.filterMap_append]
      rfl
    | some question =>
      -- What comes after the answer is composed calls nobody.
      have hcomposed := s.calls_composed r question w
      rw [ask_accepted haccepted, run_answerIn, ← hcomposed]
      generalize s.composed r question w = y
      obtain ⟨x, w₁⟩ := y
      cases x with
      | error e => exact keepsCalls_count _ w₁
      | ok a => exact s.keepsCalls_deliver r _ a origin w₁
  | history session => exact (List.append_nil _).symm
  | forget session => exact (List.append_nil _).symm

/-! ### All calls of the service -/

theorem calls_after (s : Service σ) (steps : List Step) (w : World σ) :
    (s.after steps w).calls = w.calls ++ (s.log steps w).flatMap s.consultation := by
  induction steps generalizing w with
  | nil => exact (List.append_nil _).symm
  | cons step steps ih =>
    have hafter : s.after (step :: steps) w =
        s.after steps (StateT.run (s.perform step) w).2 := rfl
    rw [hafter, ih, log, List.flatMap_cons, calls_perform, List.append_assoc]

/-- What stands before a call in a log is the log of the calls before it, which lead to the world
that the call begins with. -/
theorem exists_steps_of_log {earlier later : List (Entry σ)} {x : Entry σ}
    (h : s.log steps w = earlier ++ x :: later) :
    ∃ before, earlier = s.log before w ∧ x.before = s.after before w := by
  induction earlier generalizing steps w with
  | nil =>
    refine ⟨[], rfl, ?_⟩
    cases steps with
    | nil => cases h
    | cons step steps =>
      rw [log, List.nil_append] at h
      rw [← (List.cons.inj h).1]
      rfl
  | cons y earlier ih =>
    cases steps with
    | nil => cases h
    | cons step steps =>
      rw [log, List.cons_append] at h
      obtain ⟨hy, hrest⟩ := List.cons.inj h
      obtain ⟨before, hearlier, hbefore⟩ := ih hrest
      refine ⟨step :: before, ?_, hbefore⟩
      rw [log, hy, hearlier]

/-- What the language model is told in a run that a log tells. -/
structure Consulted (s : Service σ) (log : List (Entry σ)) (w w' : World σ) : Prop where
  /-- It is called for the calls of the service one after another, and for nothing else. -/
  calls : w'.calls = w.calls ++ log.flatMap s.consultation
  /-- It is called for accepted questions only. -/
  silent : ∀ x ∈ log, s.consultation x ≠ [] →
    ∃ r origin question, x.step = .ask r origin ∧ s.accepted? r = some question
  /-- Its persona varies in the language alone. -/
  persona : ∃ before between after, ∀ language,
    Prompt.persona language = before ++ language ++ between ++ language ++ after
  /-- The request for a summary is made of the language and the answer. -/
  summary : ∃ before between, ∀ language answer,
    Prompt.summaryRequest language answer = before ++ language ++ between ++ answer
  /-- For an accepted question it is told the persona, as many turns of the session as the window
  takes, each by the one who said it, and the question; then, if it answers and a summary is wanted,
  the answer. The session holds what was said in it since it was last forgotten. -/
  asked : ∀ earlier x later, log = earlier ++ x :: later →
    ∀ r origin question, x.step = .ask r origin → s.accepted? r = some question →
      ∃ (older context : List Session.Turn) (told : List Message) (first : Call),
        x.before.sessions.turns (Session.resolve r.session) = older ++ context ∧
        (older ++ context).map said = (sinceForgotten (Session.resolve r.session) earlier).flatMap
          (s.saidIn (Session.resolve r.session)) ∧
        context.length = min s.window (older ++ context).length ∧
        first.model = (r.model.filter fun m => !isBlankText m).getD s.model ∧
        first.temperature = r.temperature.getD s.temperature ∧
        List.Forall₂ Message.Tells context told ∧
        first.messages =
          ⟨.system, Prompt.persona r.language⟩ :: told ++ [⟨.user, question⟩] ∧
        s.consultation x = first ::
          match ((s.provider.complete first).run
              (withQuestion r question x.before).outside).value with
          | .ok c =>
            if r.simplify then
              [⟨first.model,
                [⟨.system, Prompt.persona r.language⟩,
                  ⟨.user, Prompt.summaryRequest r.language (Answer.textOf c)⟩],
                s.summaryTemperature⟩]
            else []
          | .error _ => []

omit [Outside σ] in
/-- A window cuts a session in two. -/
theorem exists_older (store : Session.Store) (name : String) (n : Nat) :
    ∃ older, store.turns name = older ++ store.window name n ∧
      (store.window name n).length = min n (store.turns name).length := by
  obtain ⟨⟨older, holder⟩, hlength⟩ := store.window_suffix name n
  exact ⟨older, holder.symm, hlength⟩

end Ask.Service

end Tutor
