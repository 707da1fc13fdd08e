import Tutor.World

/-!
# What runs do to a world

A run is judged by what it adds to the trail and by what it leaves alone. A view of the world that
every part of a run leaves alone is left alone by the run, and if every part of a run adds events of
one kind only, so does the run.

* `World.requests`, `World.calls`, `World.utterances`, `World.counters` – the trail, by kinds of
  events.
* `Run.Keeps` – what a run leaves alone.
* `Run.Maintains` – what holds of the disk after a run if it held before.
* `Run.Adds` – what a run adds to the trail.
-/

namespace Tutor

variable {σ α β γ : Type}

/-! ### Requests -/

/-- The request that was sent, if one was. -/
def Event.request? : Event → Option Http.Request
  | .sent r => some r
  | _ => none

/-- The requests that were sent, oldest first. -/
def World.requests (w : World σ) : List Http.Request := w.trail.filterMap Event.request?

theorem filterMap_request?_sent (sent : List Http.Request) :
    (sent.map Event.sent).filterMap Event.request? = sent := by
  rw [List.filterMap_map]
  exact List.filterMap_some

/-! ### Calls of the language model -/

/-- The call of the language model that was made, if one was. -/
def Event.call? : Event → Option Call
  | .called c => some c
  | _ => none

/-- The calls of the language model that were made, oldest first. -/
def World.calls (w : World σ) : List Call := w.trail.filterMap Event.call?

theorem filterMap_call?_sent (sent : List Http.Request) :
    (sent.map Event.sent).filterMap Event.call? = [] := by
  rw [List.filterMap_map]
  exact List.filterMap_eq_nil_iff.mpr fun r _ => rfl

/-! ### What the synthesizer is asked for -/

/-- What the synthesizer was asked for, if it was asked. -/
def Event.utterance? : Event → Option Utterance
  | .spoken u => some u
  | _ => none

/-- What the synthesizer was asked for, oldest first. -/
def World.utterances (w : World σ) : List Utterance := w.trail.filterMap Event.utterance?

theorem filterMap_utterance?_sent (sent : List Http.Request) :
    (sent.map Event.sent).filterMap Event.utterance? = [] := by
  rw [List.filterMap_map]
  exact List.filterMap_eq_nil_iff.mpr fun r _ => rfl

/-! ### What is counted -/

/-- The counter that went up, if one did. -/
def Event.counter? : Event → Option Counter
  | .counted c => some c
  | _ => none

/-- The counters that went up, oldest first. -/
def World.counters (w : World σ) : List Counter := w.trail.filterMap Event.counter?

theorem filterMap_counter?_sent (sent : List Http.Request) :
    (sent.map Event.sent).filterMap Event.counter? = [] := by
  rw [List.filterMap_map]
  exact List.filterMap_eq_nil_iff.mpr fun r _ => rfl

/-! ### What a run leaves alone -/

/-- A run leaves alone what a view shows of the world. -/
def Run.Keeps (view : World σ → γ) (x : Run σ α) : Prop :=
  ∀ w, view (StateT.run x w).2 = view w

namespace Run.Keeps

variable {view : World σ → γ} {x : Run σ α} {f : α → Run σ β}

theorem pure (a : α) : Keeps view (Pure.pure a : Run σ α) := fun _ => rfl

theorem bind (hx : Keeps view x) (hf : ∀ a, Keeps view (f a)) : Keeps view (x >>= f) := fun w => by
  rw [run_bind]
  exact (hf _ _).trans (hx w)

theorem record (e : Event) (h : ∀ (w : World σ) trail, view { w with trail } = view w) :
    Keeps view (Run.record e) := fun w => h w _

theorem errand (e : Errand σ α)
    (h : ∀ (w : World σ) trail outside, view { w with trail, outside } = view w) :
    Keeps view (Run.errand e) := fun w => h w _ _

end Run.Keeps

/-- A view shows neither the trail nor what lies outside. What only leaves a trail and runs errands
leaves such a view alone. -/
def World.Inner (view : World σ → γ) : Prop :=
  ∀ (w : World σ) trail outside, view { w with trail, outside } = view w

theorem World.Inner.record {view : World σ → γ} (h : World.Inner view) (e : Event) :
    Run.Keeps view (Run.record e) := .record e fun w trail => h w trail w.outside

theorem World.Inner.errand {view : World σ → γ} (h : World.Inner view) (e : Errand σ α) :
    Run.Keeps view (Run.errand e) := .errand e h

theorem World.inner_sessions : World.Inner (World.sessions (σ := σ)) := fun _ _ _ => rfl

theorem World.inner_disk : World.Inner (World.disk (σ := σ)) := fun _ _ _ => rfl

/-- A run leaves the sessions alone. -/
abbrev Run.KeepsSessions (x : Run σ α) : Prop := Run.Keeps World.sessions x

/-! ### What a run maintains on the disk -/

/-- A run maintains a property of the disk. -/
def Run.Maintains (P : Disk → Prop) (x : Run σ α) : Prop :=
  ∀ w, P w.disk → P (StateT.run x w).2.disk

namespace Run.Maintains

variable {P : Disk → Prop} {x : Run σ α} {f : α → Run σ β}

theorem pure (a : α) : Maintains P (Pure.pure a : Run σ α) := fun _ hw => hw

theorem bind (hx : Maintains P x) (hf : ∀ a, Maintains P (f a)) : Maintains P (x >>= f) :=
  fun w hw => hf _ _ (hx w hw)

theorem onDisk {g : Disk → Except Disk.Problem Disk} (h : ∀ d d', P d → g d = .ok d' → P d') :
    Maintains P (Run.onDisk g : Run σ _) := by
  intro w hw
  cases hd : g w.disk with
  | ok d =>
    rw [run_onDisk_ok hd]
    exact h _ _ hw hd
  | error e =>
    rw [run_onDisk_error hd]
    exact hw

end Run.Maintains

/-! ### What a run adds to the trail -/

/-- A run adds events of one kind to the trail, and takes none away. -/
def Run.Adds (kind : Event → Bool) (x : Run σ α) : Prop :=
  ∀ w, ∃ added, (StateT.run x w).2.trail = w.trail ++ added ∧ ∀ e ∈ added, kind e = true

namespace Run.Adds

variable {kind : Event → Bool} {x : Run σ α} {f : α → Run σ β}

/-- What leaves the trail alone adds nothing to it. -/
theorem of_keeps (h : Keeps World.trail x) : Adds kind x := by
  intro w
  refine ⟨[], ?_, fun e he => by cases he⟩
  rw [List.append_nil]
  exact h w

theorem pure (a : α) : Adds kind (Pure.pure a : Run σ α) := of_keeps (.pure a)

theorem bind (hx : Adds kind x) (hf : ∀ a, Adds kind (f a)) : Adds kind (x >>= f) := by
  intro w
  obtain ⟨first, hfirst, hkind⟩ := hx w
  obtain ⟨second, hsecond, hkind'⟩ := hf (StateT.run x w).1 (StateT.run x w).2
  refine ⟨first ++ second, ?_, ?_⟩
  · rw [run_bind, hsecond, hfirst, List.append_assoc]
  · intro e he
    rcases List.mem_append.mp he with he | he
    · exact hkind e he
    · exact hkind' e he

theorem record {e : Event} (h : kind e = true) : Adds kind (Run.record e : Run σ Unit) := by
  intro w
  refine ⟨[e], rfl, ?_⟩
  intro e' he'
  rw [List.mem_singleton.mp he']
  exact h

/-- An errand adds the requests that it sends. -/
theorem errand (e : Errand σ α) (h : ∀ r, kind (.sent r) = true) : Adds kind (Run.errand e) := by
  intro w
  refine ⟨(e.run w.outside).sent.map Event.sent, rfl, ?_⟩
  intro e' he'
  obtain ⟨r, -, rfl⟩ := List.mem_map.mp he'
  exact h r

theorem onDisk (g : Disk → Except Disk.Problem Disk) : Adds kind (Run.onDisk g : Run σ _) := by
  apply of_keeps
  intro w
  cases hd : g w.disk with
  | ok d => rw [run_onDisk_ok hd]
  | error e => rw [run_onDisk_error hd]

theorem mono {wider : Event → Bool} (h : Adds kind x)
    (hkind : ∀ e, kind e = true → wider e = true) :
    Adds wider x := by
  intro w
  obtain ⟨added, htrail, hadded⟩ := h w
  exact ⟨added, htrail, fun e he => hkind e (hadded e he)⟩

/-- What is picked from a trail is left alone by a run that adds nothing to be picked. -/
theorem keeps_picked {pick : Event → Option γ} (h : Adds kind x)
    (hkind : ∀ e, kind e = true → pick e = none) :
    Keeps (fun w : World σ => w.trail.filterMap pick) x := by
  intro w
  obtain ⟨added, htrail, hadded⟩ := h w
  have hnone : added.filterMap pick = [] := by
    apply List.filterMap_eq_nil_iff.mpr
    intro e he
    exact hkind e (hadded e he)
  show (StateT.run x w).2.trail.filterMap pick = w.trail.filterMap pick
  rw [htrail, List.filterMap_append, hnone, List.append_nil]

end Run.Adds

/-- What adds no call to the trail leaves the calls alone. -/
theorem Run.keeps_calls {kind : Event → Bool} {x : Run σ α} (h : Run.Adds kind x)
    (hkind : ∀ e, kind e = true → e.call? = none) : Run.Keeps World.calls x := h.keeps_picked hkind

end Tutor
