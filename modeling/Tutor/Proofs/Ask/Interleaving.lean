import Mathlib.Algebra.BigOperators.Group.Finset.Basic
import Mathlib.Algebra.BigOperators.Group.Finset.Piecewise
import Tutor.Proofs.Ask.Scene

/-!
# Calls that interleave

What the sessions hold follows from the steps of all calls, in the order in which they were made;
what a call sees and files, from its own.

* `turns_proceeds`, `length_proceeds` – what the sessions hold.
* `way_of_moves` – a step that was made is one that its call made on its way.
* `Interleaved` – what holds in every state that steps lead to.
-/

namespace Tutor.Ask

variable {σ : Type} [Outside σ] {s : Service σ} {calls : List Step} {schedule : List Nat}
  {w : World σ} {log way : List (Move σ)} {stage : Stage}

/-! ### What the sessions hold -/

/-- The sessions are what the steps made of them, in the order in which they were made. -/
theorem sessions_proceeds (s : Service σ) (scene : Scene σ) (schedule : List Nat) :
    (scene.proceeds s schedule).world.sessions =
      scene.world.sessions.after ((scene.moves s schedule).filterMap (Move.operation? s)) := by
  refine Scene.proceeds_induction (motive := fun log scene' => scene'.world.sessions =
    scene.world.sessions.after (log.filterMap (Move.operation? s))) rfl ?_ schedule
  intro log scene' m ih hmove
  obtain ⟨-, -, hbefore, hproceed⟩ := Scene.proceed_of_moveOf? (s := s) hmove
  rw [hproceed, filterMap_concat, Session.Store.after_append, ← ih, ← hbefore]
  exact s.sessions_advance _ _ _

/-- What operations append to a session is what the steps file there. -/
theorem said_turns (log : List (Move σ)) (name : String) :
    ((log.filterMap (Move.operation? s)).filterMap (Session.Operation.turn? name)).map said =
      ((log.filterMap (Move.filed? s)).filter fun x => x.1 = name).map Prod.snd := by
  induction log with
  | nil => rfl
  | cons m log ih =>
    rw [List.filterMap_cons, List.filterMap_cons, Move.filed?]
    cases m.operation? s with
    | none => exact ih
    | some o =>
      cases o with
      | append name' t =>
        by_cases h : name' = name
        · simp [Session.Operation.turn?, h, ih]
        · simp [Session.Operation.turn?, h, ih]
      | _ => exact ih

omit [Outside σ] in
/-- Steps are counted call by call. -/
theorem countP_eq_sum (p : Move σ → Bool) {n : Nat} (h : ∀ m ∈ log, m.index < n) :
    log.countP p = ∑ i ∈ Finset.range n, (movesOf i log).countP p := by
  induction log with
  | nil => simp [movesOf]
  | cons m log ih =>
    have hm : m.index ∈ Finset.range n := Finset.mem_range.mpr (h m List.mem_cons_self)
    have hcons : ∀ i, (movesOf i (m :: log)).countP p =
        (movesOf i log).countP p + if m.index = i then (if p m then 1 else 0) else 0 := by
      intro i
      by_cases hi : m.index = i
      · simp [movesOf, hi, List.countP_cons]
      · simp [movesOf, hi]
    rw [List.countP_cons, ih fun m hm => h m (List.mem_cons_of_mem _ hm),
      Finset.sum_congr rfl fun i _ => hcons i, Finset.sum_add_distrib, Finset.sum_ite_eq,
      if_pos hm]

theorem index_lt_of_mem_moves (s : Service σ) (scene : Scene σ) (schedule : List Nat) :
    (∀ m ∈ scene.moves s schedule, m.index < scene.tasks.length) ∧
      (scene.proceeds s schedule).tasks.length = scene.tasks.length := by
  refine Scene.proceeds_induction (motive := fun log scene' =>
    (∀ m ∈ log, m.index < scene.tasks.length) ∧ scene'.tasks.length = scene.tasks.length)
    ⟨by simp, rfl⟩ ?_ schedule
  rintro log scene' m ⟨hlog, hlength⟩ hmove
  obtain ⟨htask, -, -, hproceed⟩ := Scene.proceed_of_moveOf? (s := s) hmove
  constructor
  · intro m' hm'
    rcases List.mem_append.mp hm' with hm' | hm'
    · exact hlog m' hm'
    · rw [List.mem_singleton.mp hm', ← hlength]
      exact (List.getElem?_eq_some_iff.mp htask).1
  · rw [hproceed]
    exact List.length_set.trans hlength

/-- Whether a turn of a role was filed in a session. -/
def filedIn (name : String) (role : Session.Role)
    (filed : List (String × Session.Role × String)) : Bool :=
  filed.any fun x => x.1 == name && x.2.1 == role

omit [Outside σ] in
theorem Service.due_cases (s : Service σ) (r : Request) (stage : Stage) :
    s.due r stage = [] ∨ s.due r stage = s.question r ∨
      ∃ text, s.due r stage = s.question r ++ [(Session.resolve r.session, .assistant, text)] := by
  cases stage with
  | fresh | informed => exact .inl rfl
  | filed | answered | composed => exact .inr (.inl rfl)
  | delivered a => exact .inr (.inr ⟨a.text, rfl⟩)
  | returned result =>
    cases result with
    | asked result =>
      cases result with
      | ok reply => exact .inr (.inr ⟨reply.text, rfl⟩)
      | error e => exact .inr (.inl rfl)
    | turns | forgotten => exact .inr (.inl rfl)

/-- A call files at most one turn of each role. -/
theorem countP_filed_of_way {step : Step} (h : Way s step way stage) (name : String) :
    (way.filterMap (Move.filed? s)).countP (fun x => x.1 = name) =
      (if filedIn name .user (way.filterMap (Move.filed? s)) then 1 else 0) +
        if filedIn name .assistant (way.filterMap (Move.filed? s)) then 1 else 0 := by
  have hidle : (∀ m ∈ way, m.filed? s = none) → way.filterMap (Move.filed? s) = [] :=
    List.filterMap_eq_nil_iff.mpr
  cases step with
  | ask r origin =>
    rw [filed_of_way h]
    have hquestion : (s.question r).countP (fun x => x.1 = name) =
          (if filedIn name .user (s.question r) then 1 else 0) ∧
        filedIn name .assistant (s.question r) = false := by
      rw [Service.question]
      cases s.accepted? r with
      | none => exact ⟨rfl, rfl⟩
      | some question => simp [filedIn, List.countP_cons]
    obtain hdue | hdue | ⟨text, hdue⟩ := s.due_cases r stage
    · rw [hdue]
      rfl
    · rw [hdue, hquestion.1, hquestion.2]
      rfl
    · have huser : filedIn name .user (s.due r stage) = filedIn name .user (s.question r) := by
        simp [hdue, filedIn]
      have hassistant : filedIn name .assistant (s.due r stage) =
          (Session.resolve r.session == name) := by
        rw [hdue, filedIn, List.any_append, ← filedIn, hquestion.2]
        simp
      rw [huser, hassistant, hdue, List.countP_append, hquestion.1]
      simp [List.countP_cons]
  | history session =>
    rw [hidle fun m hm => ?_]
    · rfl
    · rw [Move.filed?, Move.operation?, h.step_of_mem hm]
      cases m.task.stage <;> rfl
  | forget session =>
    rw [hidle fun m hm => ?_]
    · rfl
    · rw [Move.filed?, Move.operation?, h.step_of_mem hm]
      cases m.task.stage <;> rfl

/-- How many calls filed a turn of a role in a session. -/
def filers (s : Service σ) (name : String) (role : Session.Role) (log : List (Move σ)) (n : Nat) :
    Nat :=
  ((Finset.range n).filter fun i =>
    filedIn name role ((movesOf i log).filterMap (Move.filed? s))).card

/-- What a session holds is what was filed there since it was last cleared. -/
theorem turns_proceeds (s : Service σ) (calls : List Step) (schedule : List Nat)
    (hw : w.sessions = ∅) (name : String) :
    ((Scene.start calls w).proceeds s schedule).world.sessions.turns name =
      Session.appended name
        (((Scene.start calls w).moves s schedule).filterMap (Move.operation? s)) := by
  have hstart : (Scene.start calls w).world.sessions = ∅ := hw
  rw [sessions_proceeds, hstart, Session.Store.turns_after]

/-- While nothing clears a session, it holds a turn for each question filed there, and one for each
answer. -/
theorem length_proceeds (hw : w.sessions = ∅) {name : String}
    (hclears : ∀ o ∈ ((Scene.start calls w).moves s schedule).filterMap (Move.operation? s),
      o.clears name = false) :
    (((Scene.start calls w).proceeds s schedule).world.sessions.turns name).length =
      filers s name .user ((Scene.start calls w).moves s schedule) calls.length +
        filers s name .assistant ((Scene.start calls w).moves s schedule) calls.length := by
  obtain ⟨hindex, hlength⟩ := index_lt_of_mem_moves s (Scene.start calls w) schedule
  have hcalls : (Scene.start calls w).tasks.length = calls.length := List.length_map _
  rw [hcalls] at hindex hlength
  have hways := way_proceeds s calls schedule w
  have hturns := turns_proceeds s calls schedule hw name
  have hsaid := said_turns (s := s) ((Scene.start calls w).moves s schedule) name
  generalize (Scene.start calls w).moves s schedule = log at *
  -- The turns are as many as the steps that file one there, and these are counted call by call.
  rw [Session.appended_of_not_clears hclears] at hturns
  rw [hturns, ← List.length_map said, hsaid, List.length_map, ← List.countP_eq_length_filter,
    List.countP_filterMap, countP_eq_sum _ hindex, filers, filers, Finset.card_filter,
    Finset.card_filter, ← Finset.sum_add_distrib]
  refine Finset.sum_congr rfl fun i hi => ?_
  rw [← List.countP_filterMap]
  have hi : i < ((Scene.start calls w).proceeds s schedule).tasks.length := by
    rw [hlength]
    exact Finset.mem_range.mp hi
  exact countP_filed_of_way (hways i _ (List.getElem?_eq_getElem hi)) name

/-! ### Calls that interleave -/

/-- A step that was made by a schedule is one that its call made on its way. -/
theorem way_of_moves {earlier later : List (Move σ)} {m : Move σ}
    (h : (Scene.start calls w).moves s schedule = earlier ++ m :: later) :
    Way s m.task.step (movesOf m.index earlier) m.task.stage ∧
      ∃ before, earlier = (Scene.start calls w).moves s before ∧
        m.before = ((Scene.start calls w).proceeds s before).world := by
  obtain ⟨before, hearlier, htask, hbefore⟩ := Scene.exists_schedule_of_moves h
  have hway := way_proceeds s calls before w m.index m.task htask
  rw [← hearlier] at hway
  exact ⟨hway, before, hearlier, hbefore⟩

/-- Only an answer that is complete is filed as one. -/
theorem Move.filed?_eq_answer {m : Move σ} {name text : String}
    (h : m.filed? s = some (name, .assistant, text)) :
    ∃ r origin a, m.task = ⟨.ask r origin, .composed a⟩ ∧ name = Session.resolve r.session ∧
      text = a.text := by
  obtain ⟨i, ⟨step, stage⟩, w⟩ := m
  cases step with
  | ask r origin =>
    rw [Move.filed?_ask rfl] at h
    cases stage with
    | composed a =>
      cases h
      exact ⟨r, origin, a, rfl, rfl, rfl⟩
    | _ => cases h
  | history session => cases stage <;> cases h
  | forget session => cases stage <;> cases h

/-- What holds of calls that interleave, in a state that their steps lead to. -/
structure Interleaved (s : Service σ) (calls : List Step) (log : List (Move σ)) (scene : Scene σ) :
    Prop where
  /-- The steps are those of the calls: made one after another, they are the call. -/
  whole : ∀ step (w : World σ), StateT.run (s.advances step 6 .fresh) w =
    (.returned (StateT.run (s.perform step) w).1, (StateT.run (s.perform step) w).2)
  /-- A session holds the turns appended to it since it was last cleared, in the order in which they
  were. -/
  history : ∀ name, scene.world.sessions.turns name =
    Session.appended name (log.filterMap (Move.operation? s))
  /-- That is what a call sees that looks at the session. -/
  looked : ∀ earlier m later, log = earlier ++ m :: later →
    ∀ session, m.task = ⟨.history session, .fresh⟩ →
      (StateT.run (s.advance m.task.step m.task.stage) m.before).1 = .returned (.turns
        (Session.appended (Session.resolve session) (earlier.filterMap (Move.operation? s))))
  /-- A question that was accepted is filed once in its own session, and its answer at most once and
  behind it. Nothing else is filed by it. -/
  filed : ∀ i r origin stage, scene.tasks[i]? = some ⟨.ask r origin, stage⟩ →
    (movesOf i log).filterMap (Move.filed? s) = s.due r stage
  /-- An answer is filed only if the model gave it. -/
  answered : ∀ earlier m later, log = earlier ++ m :: later →
    ∀ name text, m.filed? s = some (name, .assistant, text) →
      ∃ call ∈ movesOf m.index earlier, ∃ r origin question before c,
        call.task = ⟨.ask r origin, .filed question before⟩ ∧ name = Session.resolve r.session ∧
        s.answerTo r before question call.before = .ok c ∧ text = Answer.textOf c
  /-- The model is told, with the question, the last turns of the session as it was when the
  question was accepted, which was before anything was filed by it, each by the one who said it. -/
  context : ∀ earlier m later, log = earlier ++ m :: later →
    ∀ r origin question before, m.task = ⟨.ask r origin, .filed question before⟩ →
      (∃ told, List.Forall₂ Message.Tells before told ∧
        (StateT.run (s.advance m.task.step m.task.stage) m.before).2.calls =
          m.before.calls ++ [⟨(s.optionsFor r).model,
            ⟨.system, Prompt.persona r.language⟩ :: told ++ [⟨.user, question⟩],
            (s.optionsFor r).temperature⟩]) ∧
        ∃ past read between older, earlier = past ++ read :: between ∧ read.index = m.index ∧
          read.task = ⟨.ask r origin, .fresh⟩ ∧ movesOf m.index past = [] ∧
          read.before.sessions.turns (Session.resolve r.session) = older ++ before ∧
          Session.appended (Session.resolve r.session) (past.filterMap (Move.operation? s)) =
            older ++ before ∧
          before.length = min s.window (older ++ before).length
  /-- A session that nothing clears has as many turns as there are questions filed in it, and
  answers. -/
  length : ∀ name, (∀ o ∈ log.filterMap (Move.operation? s), o.clears name = false) →
    (scene.world.sessions.turns name).length =
      filers s name .user log calls.length + filers s name .assistant log calls.length

theorem calls_advance_filed (s : Service σ) (r : Request) (origin : Speech.Origin)
    (question : String) (before : List Session.Turn) (w : World σ) :
    (StateT.run (s.advance (.ask r origin) (.filed question before)) w).2.calls =
      w.calls ++ [s.questionCall r before question] := by
  have hcalls :
      (StateT.run (Answer.primary s.provider (s.optionsFor r) before question) w).2.calls =
        w.calls ++ [s.questionCall r before question] :=
    Answer.calls_primary s.provider (s.optionsFor r) before question w
  rw [Service.advance, Run.run_bind, ← hcalls]
  cases (StateT.run (Answer.primary s.provider (s.optionsFor r) before question) w).1 with
  | ok text => rfl
  | error e => exact Service.keepsCalls_count _ _

end Tutor.Ask
