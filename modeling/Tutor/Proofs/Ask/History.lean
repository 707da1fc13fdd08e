import Mathlib.Data.List.Induction
import Tutor.Proofs.Ask.Asking
import Tutor.Proofs.Text.Trim

/-!
# The history of a session

A service is asked, read and told to forget, in any order. What the history of a session tells is
what was said in it since it was last forgotten: for each question accepted there, the question, and
the answer that was returned if the language model gave one.

* `Step`, `log`, `after` – runs of calls.
* `saidIn`, `sinceForgotten` – what a log says of a session.
* `turns_perform`, `turns_after` – one call, and all of them.
* `Recorded` – what holds of the history in every state that calls lead to.
-/

namespace Tutor.Ask

open Tutor.Text

/-! ### Runs of calls -/

/-- A call of a service. -/
inductive Step where
  /-- A question. -/
  | ask (r : Request) (origin : Speech.Origin)
  /-- A look at the history of a session. -/
  | history (session : Option String)
  /-- A session is to be forgotten. -/
  | forget (session : Option String)

/-- What a call returns. -/
inductive Result where
  /-- A reply, or the fault of the question. -/
  | asked (x : Except Fault Reply)
  /-- The turns of a session. -/
  | turns (turns : List Session.Turn)
  /-- Nothing. -/
  | forgotten

/-- A call that was made: the world before it, and what it returned. -/
structure Entry (σ : Type) where
  before : World σ
  step : Step
  result : Result

/-- What is said in a turn, and by whom. -/
def said (t : Session.Turn) : Session.Role × String := (t.role, t.text)

variable {σ : Type}

/-- Whether a call forgets a session. -/
def Entry.forgets (name : String) (x : Entry σ) : Bool :=
  match x.step with
  | .forget session => Session.resolve session == name
  | _ => false

/-- The calls since a session was last forgotten. -/
def sinceForgotten (name : String) (log : List (Entry σ)) : List (Entry σ) :=
  (log.reverse.takeWhile fun x => !x.forgets name).reverse

namespace Service

/-- What a call says in a session: nothing, unless it is a question addressed to the session and
accepted; then the question, and the text of the reply if there is one. -/
def saidIn (s : Service σ) (name : String) (x : Entry σ) : List (Session.Role × String) :=
  match x.step, x.result with
  | .ask r _, .asked result =>
    if Session.resolve r.session = name then
      match s.accepted? r, result with
      | none, _ => []
      | some question, .error _ => [(.user, question)]
      | some question, .ok reply => [(.user, question), (.assistant, reply.text)]
    else []
  | _, _ => []

variable [Outside σ]

/-- Makes a call. -/
def perform (s : Service σ) : Step → Run σ Result
  | .ask r origin => return .asked (← s.ask r origin)
  | .history session => return .turns (← history session)
  | .forget session => do
    forget session
    return .forgotten

theorem run_perform_ask (s : Service σ) (r : Request) (origin : Speech.Origin) (w : World σ) :
    StateT.run (s.perform (.ask r origin)) w =
      (.asked (StateT.run (s.ask r origin) w).1, (StateT.run (s.ask r origin) w).2) := rfl

/-- The calls made, one after another. -/
def log (s : Service σ) : List Step → World σ → List (Entry σ)
  | [], _ => []
  | step :: steps, w =>
    ⟨w, step, (StateT.run (s.perform step) w).1⟩ :: s.log steps (StateT.run (s.perform step) w).2

/-- The world after calls. -/
def after (s : Service σ) (steps : List Step) (w : World σ) : World σ :=
  steps.foldl (fun w step => (StateT.run (s.perform step) w).2) w

variable {s : Service σ} {steps : List Step} {step : Step} {w : World σ} {name : String}

theorem after_concat (s : Service σ) (steps : List Step) (step : Step) (w : World σ) :
    s.after (steps ++ [step]) w = (StateT.run (s.perform step) (s.after steps w)).2 := by
  rw [after, List.foldl_append]
  rfl

theorem log_concat (s : Service σ) (steps : List Step) (step : Step) (w : World σ) :
    s.log (steps ++ [step]) w = s.log steps w ++
      [⟨s.after steps w, step, (StateT.run (s.perform step) (s.after steps w)).1⟩] := by
  induction steps generalizing w with
  | nil => rfl
  | cons first steps ih =>
    rw [List.cons_append, log, log, ih]
    rfl

omit [Outside σ] in
/-- With one call more, the calls since a session was last forgotten are one more as well, unless it
forgets the session. -/
theorem sinceForgotten_concat (name : String) (log : List (Entry σ)) (x : Entry σ) :
    sinceForgotten name (log ++ [x]) =
      if x.forgets name then [] else sinceForgotten name log ++ [x] := by
  rw [sinceForgotten, List.reverse_append, List.reverse_singleton, List.singleton_append,
    List.takeWhile_cons]
  cases x.forgets name with
  | true => rfl
  | false => simp [sinceForgotten]

/-! ### One call -/

/-- What one call does to the turns of a session. -/
theorem turns_perform (s : Service σ) (step : Step) (w : World σ) (name : String) :
    ((StateT.run (s.perform step) w).2.sessions.turns name).map said =
      if Entry.forgets name ⟨w, step, (StateT.run (s.perform step) w).1⟩ then []
      else (w.sessions.turns name).map said ++
        s.saidIn name ⟨w, step, (StateT.run (s.perform step) w).1⟩ := by
  cases step with
  | ask r origin =>
    have hforgets : ∀ x, Entry.forgets name ⟨w, .ask r origin, x⟩ = false := fun _ => rfl
    rw [run_perform_ask, if_neg (by rw [hforgets]; exact Bool.false_ne_true)]
    dsimp only [saidIn]
    have hasked := asked_ask s r origin w
    generalize (StateT.run (s.ask r origin) w).2.sessions = store at hasked ⊢
    generalize (StateT.run (s.ask r origin) w).1 = x at hasked ⊢
    cases hasked with
    | refused e hnone => simp [hnone]
    | failed time haccepted hprimary =>
      rw [haccepted, Session.Store.turns_append]
      split
      · next hname => simp [hname, said]
      · simp
    | answered time time' haccepted hprimary hreply =>
      -- Both turns go to the one session that the request is addressed to.
      rw [haccepted, Session.Store.turns_append]
      split
      · next hname => simp [hname, said]
      · next hname => simp [hname, Session.Store.turns_append]
  | history session => exact (List.append_nil _).symm
  | forget session =>
    change ((w.sessions.clear (Session.resolve session)).turns name).map said = _
    rw [Session.Store.turns_clear]
    dsimp only [Entry.forgets, saidIn]
    by_cases hname : Session.resolve session = name
    · simp [hname]
    · simp [hname]

/-! ### All calls -/

/-- The turns of a session are what was said in it since it was last forgotten. By induction on the
calls, the last of them first. -/
theorem turns_after (s : Service σ) (steps : List Step) {w : World σ} (hw : w.sessions = ∅)
    (name : String) :
    ((s.after steps w).sessions.turns name).map said =
      (sinceForgotten name (s.log steps w)).flatMap (s.saidIn name) := by
  induction steps using List.reverseRecOn with
  | nil => simp [after, log, sinceForgotten, hw]
  | append_singleton steps step ih =>
    rw [after_concat, log_concat, sinceForgotten_concat, turns_perform, ih]
    split
    · rfl
    · simp

/-- What a log tells of a call is what the call returns in the world before it. -/
theorem result_of_mem_log {x : Entry σ} (hx : x ∈ s.log steps w) :
    x.result = (StateT.run (s.perform x.step) x.before).1 := by
  induction steps generalizing w with
  | nil => cases hx
  | cons step steps ih =>
    rcases List.mem_cons.mp hx with rfl | hx
    · rfl
    · exact ih hx

/-- How the question of a call went. -/
theorem asked_of_mem_log {x : Entry σ} (hx : x ∈ s.log steps w) {r : Request}
    {origin : Speech.Origin} (hstep : x.step = .ask r origin) :
    ∃ result store, x.result = .asked result ∧ Asked s r x.before result store := by
  refine ⟨_, _, ?_, asked_ask s r origin x.before⟩
  rw [result_of_mem_log hx, hstep]
  rfl

/-- A turn as it is kept: questions are not blank, answers are there and have no blanks around
them. -/
def IsKept : Session.Role × String → Prop
  | (.user, text) => isBlankText text = false
  | (.assistant, text) => text ≠ "" ∧ trimmed text = text

theorem isKept_answer (c : Tutor.Reply) : IsKept (.assistant, Answer.textOf c) := by
  rw [Answer.textOf]
  split
  · exact ⟨by decide, by decide⟩
  · next hne => exact ⟨by simpa using hne, trimmed_trimmed _⟩

theorem isKept_of_mem_saidIn {x : Entry σ} (hx : x ∈ s.log steps w)
    {t : Session.Role × String} (ht : t ∈ s.saidIn name x) : IsKept t := by
  cases hstep : x.step with
  | ask r origin =>
    obtain ⟨result, store, hresult, hasked⟩ := asked_of_mem_log hx hstep
    rw [saidIn, hstep, hresult] at ht
    dsimp only at ht
    split at ht
    · cases hasked with
      | refused e hnone => rw [hnone] at ht; cases ht
      | failed time haccepted hprimary =>
        rw [haccepted] at ht
        obtain rfl := List.mem_singleton.mp ht
        exact (accepted?_eq_some_iff.mp haccepted).2.2
      | answered time time' haccepted hprimary hreply =>
        rw [haccepted] at ht
        rcases List.mem_cons.mp ht with rfl | ht
        · exact (accepted?_eq_some_iff.mp haccepted).2.2
        · obtain rfl := List.mem_singleton.mp ht
          rw [hreply]
          exact isKept_answer _
    · cases ht
  | history session => rw [saidIn, hstep] at ht; cases ht
  | forget session => rw [saidIn, hstep] at ht; cases ht

/-! ### The history in every state -/

/-- What sessions tell after calls that a log tells. -/
structure Recorded (s : Service σ) (log : List (Entry σ)) (w : World σ) : Prop where
  /-- No name, an empty name and `global` mean one session, and any other name its own. -/
  shared : Session.resolve none = "global" ∧ Session.resolve (some "") = "global" ∧
    ∀ name, name ≠ "" → Session.resolve (some name) = name
  /-- Reading a session gives what was said in it since it was last forgotten. -/
  history : ∀ session, (StateT.run (history session) w).1.map said =
    (sinceForgotten (Session.resolve session) log).flatMap (s.saidIn (Session.resolve session))
  /-- An accepted question fails exactly if the model fails it, and otherwise its reply is what the
  model says. -/
  replied : ∀ x ∈ log, ∀ r origin question, x.step = .ask r origin →
    s.accepted? r = some question →
      match s.primary r question x.before with
      | .error e => x.result = .asked (.error e)
      | .ok c => ∃ reply, x.result = .asked (.ok reply) ∧ reply.text = Answer.textOf c
  /-- Every turn that is kept is one that can be. -/
  kept : ∀ name, ∀ t ∈ w.sessions.turns name, IsKept (said t)

/-- Whatever calls are made of a new service, and whatever lies outside, its sessions tell what was
said. -/
theorem recorded_after (s : Service σ) (steps : List Step) (disk : Disk) (trail : List Event)
    (outside : σ) :
    Recorded s (s.log steps { disk, trail, outside }) (s.after steps { disk, trail, outside }) where
  shared := ⟨rfl, rfl, fun name hname => if_neg (by simpa using hname)⟩
  history session := turns_after s steps rfl (Session.resolve session)
  replied x hx r origin question hstep haccepted := by
    obtain ⟨result, store, hresult, hasked⟩ := asked_of_mem_log hx hstep
    cases hasked with
    | refused e hnone => rw [haccepted] at hnone; cases hnone
    | failed time haccepted' hprimary =>
      obtain rfl := Option.some.inj (haccepted.symm.trans haccepted')
      rw [hprimary]
      exact hresult
    | answered time time' haccepted' hprimary hreply =>
      obtain rfl := Option.some.inj (haccepted.symm.trans haccepted')
      rw [hprimary]
      exact ⟨_, hresult, hreply⟩
  kept name t ht := by
    have hsaid := List.mem_map_of_mem (f := said) ht
    rw [turns_after s steps rfl name] at hsaid
    obtain ⟨x, hx, hsaid⟩ := List.mem_flatMap.mp hsaid
    have hlog := (List.takeWhile_sublist _).subset (List.mem_reverse.mp hx)
    exact isKept_of_mem_saidIn (List.mem_reverse.mp hlog) hsaid

end Service

end Tutor.Ask
