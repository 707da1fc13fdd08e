import Mathlib.Data.List.DropRight
import Tutor.Session.Store

/-!
# A store and its log

Whatever was done with a store, what it shows is told by the log of the operations alone: a session
holds the turns that were appended to it since it was last cleared. How the turns are kept does not
show, and neither does whether a session was never mentioned or is empty again.

* `Operation`, `Store.perform`, `Store.returned` – operations, and what they return.
* `appended`, `remembered`, `recalled` – the same, told by a log.
* `turns_after` – what a store holds after a log of operations.
* `Logged` – a store cannot be told from its log.
-/

namespace Tutor.Session

/-! ### Operations -/

/-- An operation on a store. -/
inductive Operation where
  | append (name : String) (t : Turn)
  | window (name : String) (n : Nat)
  | clear (name : String)
  | get (name : String)

namespace Operation

/-- The session that an operation concerns. -/
def session : Operation → String
  | append name _ | window name _ | clear name | get name => name

/-- Whether an operation only reads. -/
def isRead : Operation → Bool
  | window .. | get _ => true
  | append .. | clear _ => false

/-- Whether an operation clears a session. -/
def clears (name : String) : Operation → Bool
  | clear name' => name' == name
  | _ => false

/-- The turn that an operation appends to a session, if it appends one. -/
def turn? (name : String) : Operation → Option Turn
  | append name' t => if name' = name then some t else none
  | _ => none

end Operation

namespace Store

/-- Performs an operation: what it returns, and the store afterwards. -/
def perform (s : Store) : Operation → Option (List Turn) × Store
  | .append name t => (none, s.append name t)
  | .window name n => (some (s.window name n), s)
  | .clear name => (none, s.clear name)
  | .get name => (some (s.turns name), s)

/-- The store after operations. -/
def after (s : Store) (ops : List Operation) : Store := ops.foldl (fun s o => (s.perform o).2) s

/-- What operations return, one after another. -/
def returned (s : Store) : List Operation → List (Option (List Turn))
  | [] => []
  | o :: ops => (s.perform o).1 :: (s.perform o).2.returned ops

end Store

/-! ### Logs -/

/-- The operations since a session was last cleared. -/
def sinceCleared (name : String) (log : List Operation) : List Operation :=
  log.rtakeWhile fun o => !o.clears name

/-- The turns appended to a session since it was last cleared, in order. -/
def appended (name : String) (log : List Operation) : List Turn :=
  (sinceCleared name log).filterMap (Operation.turn? name)

/-- What an operation returns after those of a log, as the log tells it. -/
def remembered (log : List Operation) : Operation → Option (List Turn)
  | .get name => some (appended name log)
  | .window name n => some ((appended name log).rtake n)
  | .append .. | .clear _ => none

/-- What operations return after those of a log, each told by the log of all before it. -/
def recalled (log : List Operation) : List Operation → List (Option (List Turn))
  | [] => []
  | o :: ops => remembered log o :: recalled (log ++ [o]) ops

theorem appended_concat (name : String) (log : List Operation) (o : Operation) :
    appended name (log ++ [o]) =
      if o.clears name then [] else appended name log ++ (o.turn? name).toList := by
  simp only [appended, sinceCleared, List.rtakeWhile_concat]
  cases o.clears name with
  | true => rfl
  | false => cases h : o.turn? name <;> simp [h]

/-- While nothing clears a session, all turns that were appended to it are there. -/
theorem appended_of_not_clears {name : String} {log : List Operation}
    (h : ∀ o ∈ log, o.clears name = false) : appended name log = log.filterMap (·.turn? name) := by
  have hall : sinceCleared name log = log :=
    List.rtakeWhile_eq_self_iff.mpr fun o ho => by simp [h o ho]
  rw [appended, hall]

namespace Store

variable {s s' : Store} {o : Operation} {ops : List Operation} {name : String}

/-! ### What operations do -/

theorem turns_perform (s : Store) (o : Operation) (name : String) :
    (s.perform o).2.turns name =
      if o.clears name then [] else s.turns name ++ (o.turn? name).toList := by
  cases o with
  | append name' t =>
    simp only [perform, turns_append, Operation.clears, Operation.turn?]
    by_cases h : name' = name
    · simp [h]
    · simp [h]
  | clear name' => simp [perform, turns_clear, Operation.clears, Operation.turn?]
  | window name' n => simp [perform, Operation.clears, Operation.turn?]
  | get name' => simp [perform, Operation.clears, Operation.turn?]

theorem after_append (s : Store) (ops more : List Operation) :
    s.after (ops ++ more) = (s.after ops).after more := List.foldl_append

theorem after_concat (s : Store) (ops : List Operation) (o : Operation) :
    s.after (ops ++ [o]) = ((s.after ops).perform o).2 := s.after_append ops [o]

/-- A store holds what its log says was appended. -/
theorem turns_after (ops : List Operation) (name : String) :
    ((∅ : Store).after ops).turns name = appended name ops := by
  -- By induction on the log, which `appended_concat` takes apart from its end.
  induction ops using List.reverseRecOn with
  | nil => exact turns_empty name
  | append_singleton ops o ih => rw [after_concat, turns_perform, appended_concat, ih]

/-! ### Stores that show the same -/

/-- Two stores hold the same turns. -/
def Same (s s' : Store) : Prop := ∀ name, s.turns name = s'.turns name

theorem Same.perform (h : Same s s') (o : Operation) :
    (s.perform o).1 = (s'.perform o).1 ∧ Same (s.perform o).2 (s'.perform o).2 := by
  constructor
  · cases o with
    | append | clear => rfl
    | window name n => simp only [Store.perform, window, h name]
    | get name => exact congrArg some (h name)
  · intro name
    rw [turns_perform, turns_perform, h name]

/-- Nothing that is done later tells stores apart that hold the same turns. -/
theorem Same.returned (h : Same s s') (ops : List Operation) :
    s.returned ops = s'.returned ops := by
  induction ops generalizing s s' with
  | nil => rfl
  | cons o ops ih => rw [Store.returned, Store.returned, (h.perform o).1, ih (h.perform o).2]

theorem turns_perform_of_ne (s : Store) (h : o.session ≠ name) :
    (s.perform o).2.turns name = s.turns name := by
  -- An operation on another session neither clears this one nor appends to it.
  have hclears : o.clears name = false := by
    cases o <;> simp_all [Operation.clears, Operation.session]
  have hturn : o.turn? name = none := by
    cases o <;> simp_all [Operation.turn?, Operation.session]
  rw [turns_perform, hclears, hturn]
  exact List.append_nil _

/-- What an operation returns is told by the turns of its session. -/
theorem perform_congr (h : s.turns o.session = s'.turns o.session) :
    (s.perform o).1 = (s'.perform o).1 := by
  cases o with
  | append | clear => rfl
  | window name n => simp only [perform, window, show s.turns name = s'.turns name from h]
  | get name => exact congrArg some h

theorem same_perform_comm {a b : Operation} (h : a.session ≠ b.session) (s : Store) :
    Same ((s.perform a).2.perform b).2 ((s.perform b).2.perform a).2 := by
  intro name
  -- At most one of the two concerns a given session, and the other may be left out for it.
  by_cases ha : a.session = name
  · have hb : b.session ≠ name := fun hb => h (ha.trans hb.symm)
    rw [turns_perform_of_ne _ hb, turns_perform s a, turns_perform _ a, turns_perform_of_ne _ hb]
  · rw [turns_perform_of_ne (s.perform b).2 ha, turns_perform _ b, turns_perform s b,
      turns_perform_of_ne s ha]

/-! ### A store is its log -/

theorem remembered_eq (ops : List Operation) (o : Operation) :
    (((∅ : Store).after ops).perform o).1 = remembered ops o := by
  cases o with
  | append | clear => rfl
  | window name n => rw [perform, window, turns_after, remembered, List.rtake]
  | get name => exact congrArg some (turns_after ops name)

/-- Whatever is done after some operations returns what the log of these recalls. -/
theorem returned_after (log ops : List Operation) :
    ((∅ : Store).after log).returned ops = recalled log ops := by
  induction ops generalizing log with
  | nil => rfl
  | cons o ops ih => rw [returned, remembered_eq, ← after_concat, ih, recalled]

/-- A store that is told by the log of the operations that led to it. -/
structure Logged (log : List Operation) (s : Store) : Prop where
  /-- All that operations returned, and will return, is what the log recalls. -/
  returned : (∅ : Store).returned log = recalled [] log ∧
    ∀ later, s.returned later = recalled log later
  /-- A session holds the turns appended to it since it was last cleared. -/
  get : ∀ name, s.turns name = appended name log
  /-- A window shows the last of them, as many as asked for or all. -/
  window : ∀ name n, ∃ older, appended name log = older ++ s.window name n ∧
    (s.window name n).length = min n (appended name log).length
  /-- Reading changes nothing. -/
  reads : ∀ o : Operation, o.isRead = true → (s.perform o).2 = s
  /-- Clearing a session that holds nothing, be it unknown or cleared before, is not noticed
  later. -/
  clear : ∀ name, appended name log = [] → ∀ later, (s.clear name).returned later = s.returned later
  /-- Operations on different sessions may change places: each returns the same, and so does all
  that is done later. -/
  commute : ∀ a b : Operation, a.session ≠ b.session →
    ((s.perform b).2.perform a).1 = (s.perform a).1 ∧
    ((s.perform a).2.perform b).1 = (s.perform b).1 ∧
    ∀ later, ((s.perform a).2.perform b).2.returned later =
      ((s.perform b).2.perform a).2.returned later

/-- Whatever operations are performed on a new store, it cannot be told from their log. -/
theorem logged_after (ops : List Operation) : Logged ops ((∅ : Store).after ops) where
  returned := ⟨returned_after [] ops, returned_after ops⟩
  get := turns_after ops
  window name n := by
    obtain ⟨⟨older, holder⟩, hlength⟩ := ((∅ : Store).after ops).window_suffix name n
    rw [turns_after] at holder hlength
    exact ⟨older, holder.symm, hlength⟩
  reads o ho := by
    cases o with
    | append | clear => cases ho
    | window | get => rfl
  clear name hempty later := by
    refine Same.returned (fun name' => ?_) later
    rw [turns_clear]
    split
    · next h => rw [← h, turns_after, hempty]
    · rfl
  commute a b h :=
    ⟨perform_congr (turns_perform_of_ne _ h.symm), perform_congr (turns_perform_of_ne _ h),
      (same_perform_comm h _).returned⟩

end Store

end Tutor.Session
