import Tutor.Proofs.Ask.Stages

/-!
# Calls at the same time

Any number of calls are under way in one world, and take their steps in any order. A schedule says
whose turn it is; since it is any list, it also says when a call begins, and whether it ever ends.
What a call does follows from its own steps, wherever those of others fall between them.

* `Scene`, `proceeds`, `moves` – calls under way, and the steps that they made.
* `proceeds_induction` – what each step preserves holds after every schedule.
* `Way`, `way_proceeds` – each call goes its own way.
* `pending_of_way`, `filed_of_way`, `answered_of_way` – what a question did on its way.
-/

namespace Tutor.Ask

open Tutor.Text

/-! ### Schedules -/

/-- A call that is under way. -/
structure Task where
  step : Step
  stage : Stage

/-- Calls that are under way in one world. -/
structure Scene (σ : Type) where
  world : World σ
  tasks : List Task

/-- A step that was made: by which call, how far that was, and in what world. -/
structure Move (σ : Type) where
  index : Nat
  task : Task
  before : World σ

variable {σ : Type}

/-- Calls of which none has begun. -/
def Scene.start (calls : List Step) (w : World σ) : Scene σ := ⟨w, calls.map fun c => ⟨c, .fresh⟩⟩

/-- The steps among those made that a call made. -/
def movesOf (i : Nat) (log : List (Move σ)) : List (Move σ) := log.filter fun m => m.index == i

theorem movesOf_concat (i : Nat) (log : List (Move σ)) (m : Move σ) :
    movesOf i (log ++ [m]) = if m.index = i then movesOf i log ++ [m] else movesOf i log := by
  rw [movesOf, List.filter_append]
  by_cases h : m.index = i
  · simp [movesOf, h]
  · simp [movesOf, h]

theorem filterMap_concat {α : Type} (f : Move σ → Option α) (log : List (Move σ)) (m : Move σ) :
    (log ++ [m]).filterMap f = log.filterMap f ++ (f m).toList := by
  rw [List.filterMap_append]
  cases hm : f m <;> simp [hm]

variable [Outside σ]

namespace Scene

variable {s : Service σ} {scene : Scene σ} {schedule : List Nat}

/-- One call makes its next step. -/
def proceed (s : Service σ) (scene : Scene σ) (i : Nat) : Scene σ :=
  match scene.tasks[i]? with
  | none => scene
  | some t =>
    { world := (StateT.run (s.advance t.step t.stage) scene.world).2
      tasks := scene.tasks.set i ⟨t.step, (StateT.run (s.advance t.step t.stage) scene.world).1⟩ }

/-- Calls make their steps by a schedule. -/
def proceeds (s : Service σ) (scene : Scene σ) (schedule : List Nat) : Scene σ :=
  schedule.foldl (proceed s) scene

/-- The step that a call makes next. -/
def moveOf? (scene : Scene σ) (i : Nat) : Option (Move σ) :=
  scene.tasks[i]?.map fun t => ⟨i, t, scene.world⟩

/-- The steps that are made by a schedule, in order. -/
def moves (s : Service σ) : Scene σ → List Nat → List (Move σ)
  | _, [] => []
  | scene, i :: schedule => (scene.moveOf? i).toList ++ moves s (scene.proceed s i) schedule

theorem proceeds_concat (s : Service σ) (scene : Scene σ) (schedule : List Nat) (i : Nat) :
    scene.proceeds s (schedule ++ [i]) = (scene.proceeds s schedule).proceed s i := by
  rw [proceeds, List.foldl_append]
  rfl

theorem moves_concat (s : Service σ) (scene : Scene σ) (schedule : List Nat) (i : Nat) :
    scene.moves s (schedule ++ [i]) =
      scene.moves s schedule ++ ((scene.proceeds s schedule).moveOf? i).toList := by
  induction schedule generalizing scene with
  | nil => simp [moves, proceeds]
  | cons j schedule ih =>
    rw [List.cons_append, moves, moves, ih, List.append_assoc]
    rfl

/-- What stands before a step was made by a schedule, which led to the world that the step begins
with. -/
theorem exists_schedule_of_moves {earlier later : List (Move σ)} {m : Move σ}
    (h : scene.moves s schedule = earlier ++ m :: later) :
    ∃ before, earlier = scene.moves s before ∧
      (scene.proceeds s before).tasks[m.index]? = some m.task ∧
      m.before = (scene.proceeds s before).world := by
  induction schedule generalizing scene earlier with
  | nil => simp [moves] at h
  | cons i schedule ih =>
    rw [moves] at h
    cases hmove : scene.moveOf? i with
    | none =>
      rw [hmove] at h
      obtain ⟨before, hearlier, hm⟩ := ih h
      exact ⟨i :: before, by rw [moves, hmove]; exact hearlier, hm⟩
    | some first =>
      rw [hmove] at h
      cases earlier with
      | nil =>
        obtain rfl : first = m := (List.cons.inj h).1
        obtain ⟨t, ht, rfl⟩ := Option.map_eq_some_iff.mp hmove
        exact ⟨[], rfl, ht, rfl⟩
      | cons x earlier =>
        obtain ⟨rfl, hrest⟩ := List.cons.inj h
        obtain ⟨before, hearlier, hm⟩ := ih hrest
        exact ⟨i :: before, by rw [moves, hmove, hearlier]; rfl, hm⟩

theorem proceed_of_moveOf? {i : Nat} {m : Move σ} (h : scene.moveOf? i = some m) :
    scene.tasks[i]? = some m.task ∧ m.index = i ∧ m.before = scene.world ∧
      scene.proceed s i =
        { world := (StateT.run (s.advance m.task.step m.task.stage) m.before).2
          tasks := scene.tasks.set i
            ⟨m.task.step, (StateT.run (s.advance m.task.step m.task.stage) m.before).1⟩ } := by
  obtain ⟨t, ht, rfl⟩ := Option.map_eq_some_iff.mp h
  refine ⟨ht, rfl, rfl, ?_⟩
  rw [proceed, ht]

theorem proceed_of_moveOf?_eq_none {i : Nat} (h : scene.moveOf? i = none) :
    scene.proceed s i = scene := by
  rw [proceed, Option.map_eq_none_iff.mp h]

/-- What holds before a schedule, and after each step if it held before, holds after it. -/
theorem proceeds_induction {motive : List (Move σ) → Scene σ → Prop} (start : motive [] scene)
    (move : ∀ log scene' m, motive log scene' → scene'.moveOf? m.index = some m →
      motive (log ++ [m]) (scene'.proceed s m.index)) (schedule : List Nat) :
    motive (scene.moves s schedule) (scene.proceeds s schedule) := by
  induction schedule using List.reverseRecOn with
  | nil => exact start
  | append_singleton schedule i ih =>
    rw [moves_concat, proceeds_concat]
    cases hmove : (scene.proceeds s schedule).moveOf? i with
    | none =>
      rw [proceed_of_moveOf?_eq_none hmove]
      simpa using ih
    | some m =>
      obtain ⟨-, rfl, -⟩ := proceed_of_moveOf? (s := s) hmove
      exact move _ _ m ih hmove

end Scene

/-! ### The way of a call -/

/-- The steps that a call made itself, and the stage that they led to. -/
inductive Way (s : Service σ) (step : Step) : List (Move σ) → Stage → Prop
  | start : Way s step [] .fresh
  | move {way : List (Move σ)} (m : Move σ) : Way s step way m.task.stage → m.task.step = step →
      Way s step (way ++ [m]) (StateT.run (s.advance step m.task.stage) m.before).1

variable {s : Service σ} {calls : List Step} {schedule : List Nat} {w : World σ}
  {log way : List (Move σ)} {scene : Scene σ}

/-- Every call is at the stage that its own steps led to. -/
theorem way_proceeds (s : Service σ) (calls : List Step) (schedule : List Nat) (w : World σ) :
    ∀ i t, ((Scene.start calls w).proceeds s schedule).tasks[i]? = some t →
      Way s t.step (movesOf i ((Scene.start calls w).moves s schedule)) t.stage := by
  refine Scene.proceeds_induction (motive := fun log scene => ∀ i t, scene.tasks[i]? = some t →
    Way s t.step (movesOf i log) t.stage) ?_ ?_ schedule
  · intro i t ht
    rw [Scene.start, List.getElem?_map] at ht
    obtain ⟨c, -, rfl⟩ := Option.map_eq_some_iff.mp ht
    exact .start
  · intro log scene m ih hmove i t ht
    obtain ⟨htask, -, -, hproceed⟩ := Scene.proceed_of_moveOf? (s := s) hmove
    rw [hproceed] at ht
    rw [movesOf_concat]
    by_cases hi : m.index = i
    · subst hi
      have hlength := (List.getElem?_eq_some_iff.mp htask).1
      rw [List.getElem?_set_self hlength] at ht
      obtain rfl := Option.some.inj ht
      rw [if_pos rfl]
      exact .move m (ih _ _ htask) rfl
    · rw [List.getElem?_set_ne hi] at ht
      rw [if_neg hi]
      exact ih i t ht

theorem Way.step_of_mem {step : Step} {stage : Stage} (h : Way s step way stage) {m : Move σ}
    (hm : m ∈ way) : m.task.step = step := by
  induction h with
  | start => cases hm
  | move last _ hstep ih =>
    rcases List.mem_append.mp hm with hm | hm
    · exact ih hm
    · rw [List.mem_singleton.mp hm, hstep]

variable {r : Request} {origin : Speech.Origin} {stage : Stage}

/-! ### What a question does on its way -/

namespace Move

/-- What a step does to the sessions. -/
def operation? (s : Service σ) (m : Move σ) : Option Session.Operation :=
  s.operation? m.task.step m.task.stage m.before

/-- The turn that a step files, and the session in which it does. -/
def filed? (s : Service σ) (m : Move σ) : Option (String × Session.Role × String) :=
  match m.operation? s with
  | some (.append name t) => some (name, said t)
  | _ => none

end Move

namespace Service

/-- What a question files in its session with the step from a stage. -/
def filing? (r : Request) : Stage → Option (String × Session.Role × String)
  | .informed question _ => some (Session.resolve r.session, .user, question)
  | .composed a => some (Session.resolve r.session, .assistant, a.text)
  | _ => none

/-- The question of a request as it is filed, if it is accepted. -/
def question (s : Service σ) (r : Request) : List (String × Session.Role × String) :=
  (s.accepted? r).toList.map fun question => (Session.resolve r.session, .user, question)

/-- What a question has filed at a stage: from the step that files it on, the question if it is
accepted, and from the step that files the answer on, the answer behind it. -/
def due (s : Service σ) (r : Request) : Stage → List (String × Session.Role × String)
  | .fresh | .informed .. => []
  | .delivered a => s.question r ++ [(Session.resolve r.session, .assistant, a.text)]
  | .returned (.asked (.ok reply)) =>
    s.question r ++ [(Session.resolve r.session, .assistant, reply.text)]
  | _ => s.question r

omit [Outside σ] in
theorem Advanced.due {s : Service σ} {r : Request} {w : World σ} {stage next : Stage}
    (h : s.Advanced r w stage next)
    (haccepted : ∀ question before, stage = .informed question before →
      s.accepted? r = some question) :
    s.due r next = s.due r stage ++ (filing? r stage).toList := by
  cases h with
  | refused e hnone => simp [Service.due, filing?, question, hnone]
  | filed question' before =>
    simp [Service.due, filing?, question, haccepted question' before rfl]
  | replied reply htext => simp [Service.due, filing?, htext]
  | idle result => exact (List.append_nil _).symm
  | _ => simp [Service.due, filing?]

end Service

theorem Move.filed?_ask {m : Move σ} (h : m.task.step = .ask r origin) :
    m.filed? s = Service.filing? r m.task.stage := by
  rw [Move.filed?, Move.operation?, h]
  cases m.task.stage with
  | fresh => cases hr : s.accepted? r <;> simp [Service.operation?, Service.filing?, hr]
  | _ => rfl

/-- A question goes its way by the steps of a question. -/
theorem Way.ask_induction {motive : List (Move σ) → Stage → Prop} (start : motive [] .fresh)
    (move : ∀ way m next, Way s (.ask r origin) way m.task.stage → motive way m.task.stage →
      m.task.step = .ask r origin → s.Advanced r m.before m.task.stage next →
      motive (way ++ [m]) next)
    (h : Way s (.ask r origin) way stage) : motive way stage := by
  generalize hstep : Step.ask r origin = step at h
  induction h with
  | start => exact start
  | move m hway hm ih =>
    subst hstep
    exact move _ m _ hway ih hm (s.advanced_advance r origin _ _)

/-- The question that a stage tells of, while it is not answered, and the turns before it. -/
def Stage.pending? : Stage → Option (String × List Session.Turn)
  | .informed question before | .filed question before => some (question, before)
  | _ => none

/-- A question that is not answered yet is accepted, and the turns before it are those in the window
of its session when it made its first step. -/
theorem pending_of_way (h : Way s (.ask r origin) way stage) :
    ∀ question before, stage.pending? = some (question, before) →
      s.accepted? r = some question ∧ ∃ read ∈ way, read.task = ⟨.ask r origin, .fresh⟩ ∧
        before = read.before.sessions.window (Session.resolve r.session) s.window := by
  refine h.ask_induction (motive := fun way stage => ∀ question before,
    stage.pending? = some (question, before) → s.accepted? r = some question ∧
      ∃ read ∈ way, read.task = ⟨.ask r origin, .fresh⟩ ∧
        before = read.before.sessions.window (Session.resolve r.session) s.window) ?_ ?_
  · intro question before h
    cases h
  · intro way m next hway ih hm hnext question before hpending
    obtain ⟨i, ⟨step, stage⟩, w⟩ := m
    obtain rfl : step = .ask r origin := hm
    dsimp only at hnext ih
    cases hnext with
    | read haccepted =>
      obtain ⟨rfl, rfl⟩ := Prod.mk.inj (Option.some.inj hpending)
      exact ⟨haccepted, _, List.mem_append_right _ (List.mem_singleton_self _), rfl, rfl⟩
    | filed question' before' =>
      obtain ⟨haccepted, read, hread, hbefore⟩ := ih question before hpending
      exact ⟨haccepted, read, List.mem_append_left _ hread, hbefore⟩
    | _ => cases hpending

/-- What a question has filed is what is due at its stage. -/
theorem filed_of_way (h : Way s (.ask r origin) way stage) :
    way.filterMap (Move.filed? s) = s.due r stage := by
  refine h.ask_induction (motive := fun way stage => way.filterMap (Move.filed? s) = s.due r stage)
    rfl fun way m next hway ih hm hnext => ?_
  have haccepted : ∀ question before, m.task.stage = .informed question before →
      s.accepted? r = some question := fun question before hstage =>
    (pending_of_way hway question before (by rw [hstage, Stage.pending?])).1
  rw [filterMap_concat, ih, m.filed?_ask hm, hnext.due haccepted]

/-- The text of the answer that a stage tells of. -/
def Stage.text? : Stage → Option String
  | .answered text => some text
  | .composed a | .delivered a => some a.text
  | .returned (.asked (.ok reply)) => some reply.text
  | _ => none

/-- An answer that a stage tells of was given by the model to the primary call. -/
theorem answered_of_way (h : Way s (.ask r origin) way stage) :
    ∀ text, stage.text? = some text → ∃ m ∈ way, ∃ question before c,
      m.task = ⟨.ask r origin, .filed question before⟩ ∧
      s.answerTo r before question m.before = .ok c ∧ text = Answer.textOf c := by
  refine h.ask_induction (motive := fun way stage => ∀ text, stage.text? = some text →
    ∃ m ∈ way, ∃ question before c, m.task = ⟨.ask r origin, .filed question before⟩ ∧
      s.answerTo r before question m.before = .ok c ∧ text = Answer.textOf c) ?_ ?_
  · intro text h
    cases h
  · intro way m next hway ih hm hnext text htext
    -- Either the answer was told before, or this step is the call that gives it.
    have hlater : m.task.stage.text? = some text → ∃ m' ∈ way ++ [m], ∃ question before c,
        m'.task = ⟨.ask r origin, .filed question before⟩ ∧
        s.answerTo r before question m'.before = .ok c ∧ text = Answer.textOf c := by
      intro h
      obtain ⟨m', hm', hanswer⟩ := ih text h
      exact ⟨m', List.mem_append_left _ hm', hanswer⟩
    obtain ⟨i, ⟨step, stage⟩, w⟩ := m
    obtain rfl : step = .ask r origin := hm
    dsimp only at hnext hlater
    cases hnext with
    | answered hanswer =>
      obtain rfl := Option.some.inj htext
      exact ⟨_, List.mem_append_right _ (List.mem_singleton_self _), _, _, _, rfl, hanswer, rfl⟩
    | composed a => exact hlater htext
    | delivered a => exact hlater htext
    | replied reply hreply =>
      rw [Stage.text?, hreply] at htext
      exact hlater htext
    | idle result => exact hlater htext
    | _ => cases htext

theorem eq_nil_of_way (h : Way s (.ask r origin) way stage) (hstage : stage = .fresh) :
    way = [] := by
  have hall : stage = .fresh → way = [] := by
    refine h.ask_induction (motive := fun way stage => stage = .fresh → way = []) (fun _ => rfl) ?_
    intro way m next hway ih hm hnext hfresh
    generalize m.task.stage = stage at hnext
    cases hnext <;> cases hfresh
  exact hall hstage

end Tutor.Ask
