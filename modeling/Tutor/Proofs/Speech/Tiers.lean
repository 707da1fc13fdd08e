import Tutor.Proofs.Speech.Trail

/-!
# Whole texts first, and then spans

Whatever a synthesizer does, it is asked for a whole text once, and if that gives no place, for each
span of the text once, in order. What lies outside afterwards is what these calls leave there, so
there was no other call. The places are what the calls gave, in order; a call that gave none is a
span that was dropped.

* `Errand.run_mapM_cons` – errands one after another.
* `Synthesizer.singles`, `Synthesizer.run_resolveSpans` – asking for spans.
* `Synthesizer.tiered_resolve` – asking for a text.
-/

namespace Tutor

variable {σ α β : Type}

/-! ### Errands one after another -/

namespace Errand

theorem id_map (e : Errand σ α) : id <$> e = e := by
  show Errand.mk _ = e
  simp only [Function.comp_id, List.append_nil]

theorem bind_assoc {γ : Type} (e : Errand σ α) (f : α → Errand σ β) (g : β → Errand σ γ) :
    e >>= f >>= g = e >>= fun a => f a >>= g := by
  show Errand.mk _ = Errand.mk _
  congr 1
  funext s
  simp only [run_bind, List.append_assoc]

instance : LawfulMonad (Errand σ) := LawfulMonad.mk' _ id_map (fun _ _ => rfl) bind_assoc

/-- The second errand finds what the first left outside. -/
theorem run_mapM_cons (f : α → Errand σ β) (a : α) (as : List α) (s : σ) :
    ((a :: as).mapM f).run s =
      let first := (f a).run s
      let more := (as.mapM f).run first.outside
      ⟨first.value :: more.value, first.sent ++ more.sent, more.outside⟩ := by
  rw [List.mapM_cons]
  simp only [run_bind, run_pure, List.append_nil]

theorem length_mapM (f : α → Errand σ β) (as : List α) (s : σ) :
    ((as.mapM f).run s).value.length = as.length := by
  induction as generalizing s with
  | nil => rfl
  | cons a as ih => rw [run_mapM_cons, List.length_cons, ih, List.length_cons]

end Errand

namespace Speech.Synthesizer

/-! ### Asking for spans -/

/-- Asking for the places of spans, one after another. -/
def singles (s : Synthesizer σ) (code : String) (spans : List String) :
    Errand σ (List (Except Fault String)) := spans.mapM fun span => s.single span code

theorem outside_askSpan (s : Synthesizer σ) (text code : String) (w : World σ) :
    (StateT.run (s.askSpan text code) w).2.outside =
      ((s.single text code).run w.outside).outside := rfl

theorem value_askSpan (s : Synthesizer σ) (text code : String) (w : World σ) :
    (StateT.run (s.askSpan text code) w).1 = ((s.single text code).run w.outside).value := rfl

/-- Each span is asked for once. By induction on the spans: what the first call leaves outside is
what the others find there. -/
theorem run_resolveSpans (s : Synthesizer σ) (code : String) (spans : List String) (w : World σ) :
    let asked := (s.singles code spans).run w.outside
    (StateT.run (s.resolveSpans code spans) w).1 =
        ⟨asked.value.filterMap Except.toOption, .perSpan,
          (asked.value.filter fun found => !found.isOk).length⟩ ∧
      (StateT.run (s.resolveSpans code spans) w).2.outside = asked.outside := by
  induction spans generalizing w with
  | nil => exact ⟨rfl, rfl⟩
  | cons span spans ih =>
    obtain ⟨hvalue, houtside⟩ := ih (StateT.run (s.askSpan span code) w).2
    rw [outside_askSpan] at hvalue houtside
    rw [resolveSpans, Run.run_bind, Run.run_bind, value_askSpan, singles, Errand.run_mapM_cons]
    dsimp only
    rw [hvalue, List.filterMap_cons, List.filter_cons]
    cases ((s.single span code).run w.outside).value with
    | ok place => exact ⟨rfl, houtside⟩
    | error e => exact ⟨rfl, houtside⟩

/-- Of calls, some give a place and the others do not. -/
theorem length_places_add_failures (found : List (Except Fault String)) :
    (found.filterMap Except.toOption).length + (found.filter fun f => !f.isOk).length =
      found.length := by
  induction found with
  | nil => rfl
  | cons f found ih =>
    rw [List.filterMap_cons, List.filter_cons]
    cases f with
    | ok place =>
      show (_ :: found.filterMap _).length + (found.filter _).length = _
      rw [List.length_cons, List.length_cons, ← ih]
      omega
    | error e =>
      show (found.filterMap _).length + (_ :: found.filter _).length = _
      rw [List.length_cons, List.length_cons, ← ih]
      omega

/-! ### Asking for a text -/

variable (s : Synthesizer σ) (n : Nat) (text code : String)

/-- How a text was resolved with spans of at most `n` characters, and what was asked for. -/
structure Tiered (before : World σ) (r : Resolution) (after : World σ) : Prop where
  /-- If there are places for the whole text, these are the places, and nothing else was asked for.
  -/
  whole : ∀ places, places ≠ [] → ((s.bulk text code).run before.outside).value = .ok places →
    r = ⟨places, .bulk, 0⟩ ∧
      after.utterances = before.utterances ++ [.whole text code] ∧
      after.outside = ((s.bulk text code).run before.outside).outside
  /-- Otherwise every span was asked for once, in order, and the places are those that were found.
  -/
  bySpan : (∀ places, ((s.bulk text code).run before.outside).value = .ok places → places = []) →
    let spans := segment text n
    let asked := (s.singles code spans).run ((s.bulk text code).run before.outside).outside
    r.tier = .perSpan ∧
      r.locations = asked.value.filterMap Except.toOption ∧
      r.locations.length + r.dropped = spans.length ∧
      after.utterances = before.utterances ++ .whole text code :: spans.map (.span · code) ∧
      after.outside = asked.outside

/-- Whatever a synthesizer does, it is asked for the whole text, and for spans only if that gives
no place. -/
theorem tiered_resolve (w : World σ) :
    s.Tiered n text code w (StateT.run (s.resolve n text code) w).1
      (StateT.run (s.resolve n text code) w).2 := by
  have hvalue : (StateT.run (s.askWhole text code) w).1 =
      ((s.bulk text code).run w.outside).value := rfl
  constructor
  · intro places hne hplaces
    obtain ⟨place, more, rfl⟩ := List.exists_cons_of_ne_nil hne
    have hutterances := s.utterances_resolve n text code w
    rw [hplaces] at hutterances
    refine ⟨?_, hutterances, ?_⟩
    · rw [resolve, Run.run_bind, hvalue, hplaces]
      rfl
    · rw [resolve, Run.run_bind, hvalue, hplaces]
      rfl
  · intro hnone spans asked
    -- The call for the whole text failed or gave no place; in both cases the spans are asked for.
    have hrun : StateT.run (s.resolve n text code) w =
        StateT.run (s.resolveSpans code spans) (StateT.run (s.askWhole text code) w).2 := by
      rw [resolve, Run.run_bind, hvalue]
      cases hwhole : ((s.bulk text code).run w.outside).value with
      | error e => rfl
      | ok places =>
        obtain rfl := hnone places hwhole
        rfl
    obtain ⟨hfound, houtside⟩ :=
      s.run_resolveSpans code spans (StateT.run (s.askWhole text code) w).2
    rw [hrun, hfound, s.utterances_resolveSpans, s.utterances_askWhole, List.append_assoc]
    refine ⟨rfl, rfl, ?_, rfl, houtside⟩
    exact (length_places_add_failures asked.value).trans (Errand.length_mapM _ _ _)

end Speech.Synthesizer

end Tutor
