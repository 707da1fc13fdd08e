import Std.Data.HashMap
import Tutor.Session.Turn

/-!
# Session store

The turns of every session, oldest first. A session that was never mentioned has no turns; nothing
tells it from one that was cleared.
-/

namespace Tutor.Session

/-- The turns of every session. -/
structure Store where
  /-- The sessions that have been mentioned. -/
  sessions : Std.HashMap String (List Turn) := ∅

namespace Store

instance : EmptyCollection Store := ⟨{}⟩

/-- All turns of a session. -/
def turns (s : Store) (name : String) : List Turn := s.sessions.getD name []

/-- The last `n` turns of a session, or all if there are fewer. -/
def window (s : Store) (name : String) (n : Nat) : List Turn :=
  (s.turns name).drop ((s.turns name).length - n)

/-- Adds a turn to a session. -/
def append (s : Store) (name : String) (t : Turn) : Store :=
  { s with sessions := s.sessions.insert name (s.turns name ++ [t]) }

/-- Forgets all turns of a session. -/
def clear (s : Store) (name : String) : Store :=
  { s with sessions := s.sessions.insert name [] }

/-! ### What each operation does to the turns -/

@[simp] theorem turns_empty (name : String) : (∅ : Store).turns name = [] := by
  simp [turns, EmptyCollection.emptyCollection]

theorem turns_append (s : Store) (a b : String) (t : Turn) :
    (s.append a t).turns b = if a = b then s.turns a ++ [t] else s.turns b := by
  simp only [turns, append, Std.HashMap.getD_insert, beq_iff_eq]

theorem turns_clear (s : Store) (a b : String) :
    (s.clear a).turns b = if a = b then [] else s.turns b := by
  simp only [turns, clear, Std.HashMap.getD_insert, beq_iff_eq]

@[simp] theorem turns_append_self (s : Store) (a : String) (t : Turn) :
    (s.append a t).turns a = s.turns a ++ [t] := by
  simp [turns_append]

@[simp] theorem turns_clear_self (s : Store) (a : String) : (s.clear a).turns a = [] := by
  simp [turns_clear]

/-- A window is the end of the session, no longer than asked for. -/
theorem window_suffix (s : Store) (name : String) (n : Nat) :
    s.window name n <:+ s.turns name ∧ (s.window name n).length = min n (s.turns name).length := by
  refine ⟨List.drop_suffix _ _, ?_⟩
  simp only [window, List.length_drop]
  omega

end Store

end Tutor.Session
