import Tutor.Proofs.Ask.History
import Tutor.World.Replay

/-!
# What an answer depends on

Summary and audio are extras: neither whether they are wanted nor what becomes of them shows in the
answer, in its session or in the fault of a question. All three are told by the question and by what
the language model says to it first.

* `told_ask`, `said_ask` – the result of a question, and what is kept of it.
* `SameQuestion`, `SameAnswer` – two questions that differ in their extras only, and what they have
  in common afterwards.
-/

namespace Tutor.Ask.Service

open Tutor.Text

/-! ### One question -/

/-- What a reply tells apart from the extras: its text and its session. -/
def told (a : Reply) : String × String := (a.text, a.session)

theorem map_fst_told (x : Except Fault Reply) :
    (x.map told).map Prod.fst = x.map Reply.text := by
  cases x <;> rfl

section OneQuestion

variable {σ : Type}

/-- The fault of a request that is not accepted. -/
def refusal (s : Service σ) : Fault :=
  if s.provider.isConfigured then .request "question is required"
  else .credential s.provider.credential

variable [Outside σ] {s : Service σ} {r : Request}

theorem ask_refused (h : s.accepted? r = none) (origin : Speech.Origin) (w : World σ) :
    (StateT.run (s.ask r origin) w).1 = .error s.refusal := by
  rw [ask, refusal]
  cases hconfigured : s.provider.isConfigured with
  | false => rfl
  | true =>
    rw [accepted?, if_pos hconfigured] at h
    simp only [Bool.not_true, Bool.false_eq_true, if_false, if_true]
    rw [h]
    rfl

theorem session_deliver (s : Service σ) (r : Request) (session : String) (a : Answer)
    (origin : Speech.Origin) (w : World σ) :
    (StateT.run (s.deliver r session a origin) w).1.session = session := rfl

/-- The result of a question is the refusal, or what the model says to the primary call. -/
theorem told_ask (s : Service σ) (r : Request) (origin : Speech.Origin) (w : World σ) :
    (StateT.run (s.ask r origin) w).1.map told =
      match s.accepted? r with
      | none => .error s.refusal
      | some question =>
        (s.primary r question w).map fun c => (Answer.textOf c, Session.resolve r.session) := by
  cases haccepted : s.accepted? r with
  | none =>
    rw [ask_refused haccepted]
    rfl
  | some question =>
    rw [ask_accepted haccepted, run_answerIn]
    cases hcomposed : s.composed r question w with
    | mk x w₁ =>
      dsimp only
      cases x with
      | error e =>
        rw [primary_eq_error hcomposed]
        rfl
      | ok a =>
        obtain ⟨c, hprimary, htext⟩ := exists_primary hcomposed
        have hreply := (run_deliver s r (Session.resolve r.session) a origin w₁).1
        have hsession := session_deliver s r (Session.resolve r.session) a origin w₁
        rw [hprimary]
        show Except.ok (told _) = Except.ok _
        rw [told, hreply, hsession, htext]

/-- What a question adds to a session, by its result. -/
theorem said_ask (s : Service σ) (r : Request) (origin : Speech.Origin) (w : World σ)
    (name : String) :
    ((StateT.run (s.ask r origin) w).2.sessions.turns name).map said =
      (w.sessions.turns name).map said ++
        s.saidIn name ⟨w, .ask r origin, .asked (StateT.run (s.ask r origin) w).1⟩ := by
  have hperform := turns_perform s (.ask r origin) w name
  rwa [if_neg (by exact Bool.false_ne_true)] at hperform

/-- A fault of the primary call is the fault of the question. -/
theorem ask_eq_error {question : String} {e : Fault} {w : World σ}
    (haccepted : s.accepted? r = some question) (hprimary : s.primary r question w = .error e)
    (origin : Speech.Origin) : (StateT.run (s.ask r origin) w).1 = .error e := by
  have htold := told_ask s r origin w
  rw [haccepted] at htold
  dsimp only at htold
  rw [hprimary] at htold
  cases hask : (StateT.run (s.ask r origin) w).1 with
  | error e' =>
    rw [hask] at htold
    exact congrArg Except.error (Except.error.inj htold)
  | ok a =>
    rw [hask] at htold
    cases htold

/-- A question is answered exactly if it is accepted and the primary call succeeds. -/
theorem ask_eq_ok_iff (s : Service σ) (r : Request) (origin : Speech.Origin) (w : World σ) :
    (∃ a, (StateT.run (s.ask r origin) w).1 = .ok a) ↔
      ∃ question, s.accepted? r = some question ∧ ∃ c, s.primary r question w = .ok c := by
  have htold := told_ask s r origin w
  constructor
  · rintro ⟨a, ha⟩
    rw [ha] at htold
    cases haccepted : s.accepted? r with
    | none =>
      rw [haccepted] at htold
      cases htold
    | some question =>
      rw [haccepted] at htold
      dsimp only at htold
      refine ⟨question, rfl, ?_⟩
      cases hprimary : s.primary r question w with
      | ok c => exact ⟨c, rfl⟩
      | error e =>
        rw [hprimary] at htold
        cases htold
  · rintro ⟨question, haccepted, c, hprimary⟩
    rw [haccepted] at htold
    dsimp only at htold
    rw [hprimary] at htold
    cases hask : (StateT.run (s.ask r origin) w).1 with
    | ok a => exact ⟨a, rfl⟩
    | error e =>
      rw [hask] at htold
      cases htold

end OneQuestion

/-! ### Two questions -/

variable {σ₁ σ₂ : Type}

/-- What a question says in a session is told by the text of its result. -/
theorem saidIn_congr {s₁ : Service σ₁} {s₂ : Service σ₂} {r₁ r₂ : Request}
    {x₁ x₂ : Except Fault Reply} (hsession : r₁.session = r₂.session)
    (haccepted : s₁.accepted? r₁ = s₂.accepted? r₂)
    (htext : x₁.map Reply.text = x₂.map Reply.text) (origin₁ origin₂ : Speech.Origin)
    (w₁ : World σ₁) (w₂ : World σ₂) (name : String) :
    s₁.saidIn name ⟨w₁, .ask r₁ origin₁, .asked x₁⟩ =
      s₂.saidIn name ⟨w₂, .ask r₂ origin₂, .asked x₂⟩ := by
  dsimp only [saidIn]
  rw [hsession, haccepted]
  cases x₁ with
  | error e₁ =>
    cases x₂ with
    | error e₂ => cases s₂.accepted? r₂ <;> rfl
    | ok a₂ => cases htext
  | ok a₁ =>
    cases x₂ with
    | error e₂ => cases htext
    | ok a₂ =>
      have hsame : a₁.text = a₂.text := Except.ok.inj htext
      cases s₂.accepted? r₂ with
      | none => rfl
      | some question =>
        dsimp only
        rw [hsame]

variable [Outside σ₁] [Outside σ₂]

/-- Two questions, each to a service in a world of its own, that differ in nothing but the extras:
whether summary and audio are wanted, what speaks and what fetches, what lies outside, the files,
and what the model says to anything but the primary call. -/
structure SameQuestion (s₁ : Service σ₁) (s₂ : Service σ₂) (r₁ r₂ : Request) (w₁ : World σ₁)
    (w₂ : World σ₂) : Prop where
  isConfigured : s₁.provider.isConfigured = s₂.provider.isConfigured
  credential : s₁.provider.credential = s₂.provider.credential
  defaultModel : s₁.model = s₂.model
  defaultTemperature : s₁.temperature = s₂.temperature
  window : s₁.window = s₂.window
  question : r₁.question = r₂.question
  model : r₁.model = r₂.model
  temperature : r₁.temperature = r₂.temperature
  language : r₁.language = r₂.language
  session : r₁.session = r₂.session
  /-- The sessions hold the same turns, up to their times. -/
  sessions : ∀ name, (w₁.sessions.turns name).map said = (w₂.sessions.turns name).map said
  /-- The model says the same to the primary call. -/
  primary : ∀ question, s₁.accepted? r₁ = some question →
    s₁.primary r₁ question w₁ = s₂.primary r₂ question w₂

/-- What two questions have in common, given the results and the worlds that they lead to. -/
structure SameAnswer (s₁ : Service σ₁) (s₂ : Service σ₂) (r₁ r₂ : Request) (w₁ : World σ₁)
    (w₂ : World σ₂) (y₁ : Except Fault Reply × World σ₁) (y₂ : Except Fault Reply × World σ₂) :
    Prop where
  /-- The model is called with the same for the answer. -/
  call : ∀ question, s₁.accepted? r₁ = some question →
    s₁.primaryCall r₁ question w₁.sessions = s₂.primaryCall r₂ question w₂.sessions
  /-- Both fail with the same fault, or both are answered with the same text in the same session. -/
  result : match y₁.1, y₂.1 with
    | .error e₁, .error e₂ => e₁ = e₂
    | .ok a₁, .ok a₂ => a₁.text = a₂.text ∧ a₁.session = a₂.session
    | _, _ => False
  /-- A fault of the primary call is the fault of the question. -/
  fault : ∀ question e, s₁.accepted? r₁ = some question → s₁.primary r₁ question w₁ = .error e →
    y₁.1 = .error e
  /-- The sessions hold the same turns afterwards, up to their times. -/
  history : ∀ name, (y₁.2.sessions.turns name).map said = (y₂.2.sessions.turns name).map said
  /-- There is an answer exactly if there is a credential, a question that is not blank, and the
  primary call succeeds. -/
  succeeds : (∃ a, y₁.1 = .ok a) ↔ s₁.provider.isConfigured = true ∧
    ∃ question, r₁.question = some question ∧ isBlankText question = false ∧
      ∃ c, s₁.primary r₁ question w₁ = .ok c

variable {s₁ : Service σ₁} {s₂ : Service σ₂} {r₁ r₂ : Request} {w₁ : World σ₁} {w₂ : World σ₂}

theorem SameQuestion.accepted? (h : SameQuestion s₁ s₂ r₁ r₂ w₁ w₂) :
    s₁.accepted? r₁ = s₂.accepted? r₂ := by
  rw [Service.accepted?, Service.accepted?, h.isConfigured, h.question]

theorem SameQuestion.refusal (h : SameQuestion s₁ s₂ r₁ r₂ w₁ w₂) : s₁.refusal = s₂.refusal := by
  rw [Service.refusal, Service.refusal, h.isConfigured, h.credential]

/-- A window tells the same messages if the sessions tell the same. -/
theorem messages_window {a b : Session.Store} {name : String}
    (h : (a.turns name).map said = (b.turns name).map said) (n : Nat) :
    (a.window name n).map Message.ofTurn = (b.window name n).map Message.ofTurn := by
  -- A message is made of what is said, whenever that was.
  have hofTurn : ∀ t : Session.Turn, Message.ofTurn t =
      Message.ofTurn ⟨(said t).1, (said t).2, ⟨0, 0⟩⟩ := fun t => rfl
  have hmap : ∀ turns : List Session.Turn, turns.map Message.ofTurn =
      (turns.map said).map fun t => Message.ofTurn ⟨t.1, t.2, ⟨0, 0⟩⟩ := by
    intro turns
    rw [List.map_map]
    exact List.map_congr_left fun t _ => hofTurn t
  have hlength : (a.turns name).length = (b.turns name).length := by
    have := congrArg List.length h
    rwa [List.length_map, List.length_map] at this
  rw [Session.Store.window, Session.Store.window, List.map_drop, List.map_drop, hmap, hmap, h,
    hlength]

theorem SameQuestion.primaryCall (h : SameQuestion s₁ s₂ r₁ r₂ w₁ w₂) (question : String) :
    s₁.primaryCall r₁ question w₁.sessions = s₂.primaryCall r₂ question w₂.sessions := by
  have hcontext := messages_window (h.sessions (Session.resolve r₂.session)) s₂.window
  simp only [Service.primaryCall, optionsFor, Answer.messages, h.defaultModel,
    h.defaultTemperature, h.window, h.model, h.temperature, h.language, h.session, hcontext]

/-- The result of a question, apart from the extras, is the same. -/
theorem SameQuestion.told (h : SameQuestion s₁ s₂ r₁ r₂ w₁ w₂) (origin₁ origin₂ : Speech.Origin) :
    (StateT.run (s₁.ask r₁ origin₁) w₁).1.map Service.told =
      (StateT.run (s₂.ask r₂ origin₂) w₂).1.map Service.told := by
  rw [told_ask, told_ask, ← h.accepted?, ← h.refusal, ← h.session]
  cases haccepted : s₁.accepted? r₁ with
  | none => rfl
  | some question =>
    dsimp only
    rw [h.primary question haccepted]

theorem SameQuestion.text (h : SameQuestion s₁ s₂ r₁ r₂ w₁ w₂) (origin₁ origin₂ : Speech.Origin) :
    (StateT.run (s₁.ask r₁ origin₁) w₁).1.map Reply.text =
      (StateT.run (s₂.ask r₂ origin₂) w₂).1.map Reply.text := by
  rw [← map_fst_told, ← map_fst_told, h.told origin₁ origin₂]

/-- Two questions that differ in their extras only get the same answer, and leave the same
history. -/
theorem sameAnswer_ask (h : SameQuestion s₁ s₂ r₁ r₂ w₁ w₂) (origin₁ origin₂ : Speech.Origin) :
    SameAnswer s₁ s₂ r₁ r₂ w₁ w₂ (StateT.run (s₁.ask r₁ origin₁) w₁)
      (StateT.run (s₂.ask r₂ origin₂) w₂) where
  call question _ := h.primaryCall question
  result := by
    have htold := h.told origin₁ origin₂
    generalize (StateT.run (s₁.ask r₁ origin₁) w₁).1 = x₁ at htold ⊢
    generalize (StateT.run (s₂.ask r₂ origin₂) w₂).1 = x₂ at htold ⊢
    cases x₁ with
    | error e₁ =>
      cases x₂ with
      | error e₂ => exact Except.error.inj htold
      | ok a₂ => cases htold
    | ok a₁ =>
      cases x₂ with
      | error e₂ => cases htold
      | ok a₂ => exact Prod.mk.inj (Except.ok.inj htold)
  fault question e haccepted hprimary := ask_eq_error haccepted hprimary origin₁
  history name := by
    rw [said_ask, said_ask, h.sessions name, saidIn_congr h.session h.accepted?
      (h.text origin₁ origin₂) origin₁ origin₂ w₁ w₂ name]
  succeeds := by
    rw [ask_eq_ok_iff]
    constructor
    · rintro ⟨question, haccepted, hprimary⟩
      obtain ⟨hconfigured, hquestion, hblank⟩ := accepted?_eq_some_iff.mp haccepted
      exact ⟨hconfigured, question, hquestion, hblank, hprimary⟩
    · rintro ⟨hconfigured, question, hquestion, hblank, hprimary⟩
      exact ⟨question, accepted?_eq_some_iff.mpr ⟨hconfigured, hquestion, hblank⟩, hprimary⟩

/-- One question is asked with all extras where the summary fails and nothing can be spoken, and
once more with none, elsewhere and later. -/
theorem sameAnswer_of_failing_extras :
    let said : Tutor.Reply := ⟨⟨.assistant, "Because."⟩, none⟩
    let failing : Provider Replay :=
      { isConfigured := true
        complete := fun c => pure <|
          if c.messages.getLast? = some ⟨.user, "Why?"⟩ then .ok said
          else .error (.provider "busy") }
    let steady : Provider Replay := { isConfigured := true, complete := fun _ => pure (.ok said) }
    let mute : Speech.Synthesizer Replay :=
      ⟨fun _ _ => pure (.error (.speech "mute")), fun _ _ => pure (.error (.speech "mute"))⟩
    let s₁ : Service Replay := .around {} failing mute
    let s₂ : Service Replay := .around {} steady (synthesizerOf {})
    let r₁ : Request := { question := some "Why?" }
    let r₂ : Request := { question := some "Why?", simplify := false, playAudio := false }
    let w₁ : World Replay := { outside := ⟨[], none⟩ }
    let w₂ : World Replay :=
      { disk := Disk.put {} ["public"] (.file [1]), outside := ⟨[.time ⟨9, 0⟩], none⟩ }
    SameQuestion s₁ s₂ r₁ r₂ w₁ w₂ ∧
      SameAnswer s₁ s₂ r₁ r₂ w₁ w₂ (StateT.run (s₁.ask r₁ {}) w₁)
        (StateT.run (s₂.ask r₂ {}) w₂) := by
  intro said failing steady mute s₁ s₂ r₁ r₂ w₁ w₂
  have hsame : SameQuestion s₁ s₂ r₁ r₂ w₁ w₂ :=
    { isConfigured := rfl
      credential := rfl
      defaultModel := rfl
      defaultTemperature := rfl
      window := rfl
      question := rfl
      model := rfl
      temperature := rfl
      language := rfl
      session := rfl
      sessions := fun name => rfl
      primary := fun question haccepted => by
        obtain ⟨-, hquestion, -⟩ := accepted?_eq_some_iff.mp haccepted
        obtain rfl : "Why?" = question := Option.some.inj hquestion
        -- The last message of the primary call is the question.
        have hlast : (s₁.primaryCall r₁ "Why?" w₁.sessions).messages.getLast? =
            some ⟨.user, "Why?"⟩ := List.getLast?_concat ..
        show (if (s₁.primaryCall r₁ "Why?" w₁.sessions).messages.getLast? =
            some ⟨.user, "Why?"⟩ then _ else _) = _
        rw [if_pos hlast]
        rfl }
  exact ⟨hsame, sameAnswer_ask hsame {} {}⟩

end Tutor.Ask.Service
