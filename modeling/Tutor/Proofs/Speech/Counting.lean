import Tutor.Proofs.Speech.Recording

/-!
# What is counted of pieces

Each piece of audio is counted once, by what became of it. So the counters of a recording add up to
its report: as many pieces are counted as written as the report says, as many as rejected as it has
missing pieces that were, and all together are the places that were found. Where there is no report,
nothing is counted.

* `Tallied` – counters that add up to a report.
* `tallied_appendAll`, `tallied_assemble` – the pieces of an assembly.
* `report?`, `Counts`, `counts_record` – the report of a recording, and what is counted on the way.
-/

namespace Tutor

variable {σ α : Type}

/-! ### What counts nothing -/

theorem World.counters_count (c : Counter) (w : World σ) :
    (StateT.run (Run.count c) w).2.counters = w.counters ++ [c] := by
  rw [Run.count, Run.run_record, World.counters, List.filterMap_append]
  rfl

theorem Run.keepsCounters_record {e : Event} (h : e.counter? = none) :
    Run.Keeps World.counters (Run.record e : Run σ Unit) := by
  intro w
  rw [Run.run_record, World.counters, List.filterMap_append, List.filterMap_cons_none h]
  exact List.append_nil _

theorem Run.keepsCounters_errand (e : Errand σ α) : Run.Keeps World.counters (Run.errand e) := by
  intro w
  rw [Run.run_errand, World.counters, List.filterMap_append, filterMap_counter?_sent]
  exact List.append_nil _

theorem Run.keepsCounters_onDisk (g : Disk → Except Disk.Problem Disk) :
    Run.Keeps World.counters (Run.onDisk g : Run σ _) := by
  intro w
  cases hd : g w.disk with
  | ok d =>
    rw [run_onDisk_ok hd]
    rfl
  | error e => rw [run_onDisk_error hd]

namespace Speech

open Tutor.Text

theorem Synthesizer.keepsCounters_resolve (s : Synthesizer σ) (spanLength : Nat)
    (text code : String) : Run.Keeps World.counters (s.resolve spanLength text code) :=
  s.keeps_resolve_of
    (fun _ _ => .bind (Run.keepsCounters_record rfl) fun _ => Run.keepsCounters_errand _)
    (fun _ _ => .bind (Run.keepsCounters_record rfl) fun _ => Run.keepsCounters_errand _)
    spanLength text code

/-! ### The pieces of an assembly -/

/-- Results of pieces that add up to what a report has more than another. -/
structure Tallied (results : List PieceResult) (earlier later : Report) : Prop where
  written : later.written.length = earlier.written.length + results.count .written
  rejected : later.missing.countP (·.rejected) =
    earlier.missing.countP (·.rejected) + results.count .rejected
  failed : later.missing.countP (!·.rejected) =
    earlier.missing.countP (!·.rejected) + results.count .failed

theorem Tallied.refl (report : Report) : Tallied [] report report := ⟨rfl, rfl, rfl⟩

namespace Fetching

/-- A piece is counted as what the report has more with it. -/
theorem tallied_added (report : Report) (index : Nat) (location : String)
    (x : Except Fault Nat) : Tallied [counted x] report (added report index location x) := by
  cases x with
  | ok n => exact ⟨List.length_append, rfl, rfl⟩
  | error e => cases h : isRejection e <;> constructor <;> simp [counted, added, h]

end Fetching

theorem Tallied.trans {first second : List PieceResult} {a b c : Report}
    (hfirst : Tallied first a b) (hsecond : Tallied second b c) :
    Tallied (first ++ second) a c where
  written := by rw [hsecond.written, hfirst.written, List.count_append, Nat.add_assoc]
  rejected := by rw [hsecond.rejected, hfirst.rejected, List.count_append, Nat.add_assoc]
  failed := by rw [hsecond.failed, hfirst.failed, List.count_append, Nat.add_assoc]

/-! From an empty report, the results add up to the report itself. -/

section Whole

variable {results : List PieceResult} {report : Report} (h : Tallied results {} report)

include h

theorem Tallied.written_eq : results.count .written = report.written.length := by
  simpa using h.written.symm

theorem Tallied.rejected_eq : results.count .rejected = report.missing.countP (·.rejected) := by
  simpa using h.rejected.symm

theorem Tallied.failed_eq : results.count .failed = report.missing.countP (!·.rejected) := by
  simpa using h.failed.symm

end Whole

namespace Fetching

variable [Outside σ]

theorem keepsCounters_appendPiece (f : Fetching) (destination : Path) (location : String) :
    Run.Keeps World.counters (f.appendPiece destination location : Run σ _) := by
  refine .bind (Run.keepsCounters_errand _) fun fetched => ?_
  cases fetched with
  | error e => exact .pure _
  | ok r =>
    intro w
    obtain ⟨result, d', hrun, -⟩ := run_appendBody destination r w
    rw [hrun]
    rfl

/-- Every piece is counted once. By induction on the pieces, each of which is added to the report
and counted alike. -/
theorem tallied_appendAll (f : Fetching) (destination : Path) (index : Nat)
    (locations : List String) (report : Report) (w : World σ) :
    ∃ results, results.length = locations.length ∧
      Tallied results report
        (StateT.run (f.appendAll destination index locations report) w).1 ∧
      (StateT.run (f.appendAll destination index locations report) w).2.counters =
        w.counters ++ results.map .piece := by
  induction locations generalizing index report w with
  | nil =>
    rw [run_appendAll_nil]
    exact ⟨[], rfl, .refl _, (List.append_nil _).symm⟩
  | cons location more ih =>
    have hpiece := f.keepsCounters_appendPiece destination location w
    rw [run_appendAll_cons]
    generalize StateT.run (f.appendPiece destination location) w = y at hpiece ⊢
    obtain ⟨x, w₁⟩ := y
    dsimp only at hpiece ⊢
    have hcounted := World.counters_count (.piece (counted x)) w₁
    obtain ⟨results, hlength, htallied, hcounters⟩ := ih (index + 1)
      (added report index location x) (StateT.run (Run.count (.piece (counted x))) w₁).2
    rw [hcounted, hpiece, List.append_assoc] at hcounters
    exact ⟨counted x :: results, congrArg (· + 1) hlength,
      (tallied_added report index location x).trans htallied, hcounters⟩

/-- What is counted of an assembly adds up to its report. An assembly without a report counts
nothing. -/
theorem tallied_assemble (f : Fetching) (locations : List String) (destination : Path)
    (w : World σ) :
    ∃ results, (StateT.run (f.assemble locations destination) w).2.counters =
        w.counters ++ results.map .piece ∧
      match (StateT.run (f.assemble locations destination) w).1 with
      | .error _ => results = []
      | .ok report => Tallied results {} report ∧ results.length = locations.length := by
  obtain ⟨result, d₀, hprepare, -, -⟩ := run_prepare destination w
  rw [assemble, Run.run_bind, hprepare]
  cases result with
  | error e => exact ⟨[], (List.append_nil _).symm, rfl⟩
  | ok _ =>
    dsimp only
    obtain ⟨results, hlength, htallied, hcounters⟩ :=
      f.tallied_appendAll destination 0 locations {} { w with disk := d₀ }
    rw [Run.run_bind]
    generalize StateT.run (f.appendAll destination 0 locations {} : Run σ Report) _ = y
      at htallied hcounters ⊢
    obtain ⟨report, w₁⟩ := y
    dsimp only at htallied hcounters ⊢
    refine ⟨results, ?_, ?_⟩
    · cases report.isEmpty with
      | false => exact hcounters
      | true => exact (Run.keepsCounters_onDisk (·.removeFile destination) w₁).trans hcounters
    · cases report.isEmpty with
      | false => exact ⟨htallied, hlength⟩
      | true => exact ⟨htallied, hlength⟩

end Fetching

/-! ### The report of a recording -/

namespace Recorder

variable [Outside σ] {r : Recorder σ} {text language : String} {w : World σ}

/-- The report of a recording, if it comes to one: there is something to speak, places are found for
it, and the pieces from there are assembled. -/
def report? (r : Recorder σ) (text language : String) (w : World σ) : Option Report :=
  if isBlankText text ∨ (r.resolved text language w).1.locations = [] then none
  else (StateT.run (r.fetching.assemble (r.resolved text language w).1.locations
    (r.destination text language w)) (r.named text language w)).1.toOption

/-- Where there is nothing to speak, or no place for it, nothing is counted. -/
theorem record_of_nothing (origin : Origin)
    (h : isBlankText text = true ∨ (r.resolved text language w).1.locations = []) :
    (∀ a, (StateT.run (r.record text language origin) w).1 ≠ .completed a) ∧
      (StateT.run (r.record text language origin) w).2.counters = w.counters := by
  have hfound : (r.resolved text language w).2.counters = w.counters :=
    r.synthesizer.keepsCounters_resolve r.spanLength text (languageCode language) w
  have hresolved :
      StateT.run (r.synthesizer.resolve r.spanLength text (languageCode language)) w =
      r.resolved text language w := rfl
  rw [record]
  split
  next => exact ⟨fun a ha => (by cases ha), rfl⟩
  next hblank =>
    rw [Run.run_bind, hresolved, h.resolve_left hblank]
    exact ⟨fun a ha => (by cases ha), hfound⟩

/-- Otherwise a recording goes as its assembly does. -/
theorem run_record_of_found (origin : Origin)
    (h : ¬(isBlankText text = true ∨ (r.resolved text language w).1.locations = [])) :
    StateT.run (r.record text language origin) w =
      (StateT.run (r.fetching.assemble (r.resolved text language w).1.locations
        (r.destination text language w)) (r.named text language w)).map
        (r.outcomeOf origin (r.naming text language w).value) id := by
  obtain ⟨hblank, hlocations⟩ := not_or.mp h
  have hresolved :
      StateT.run (r.synthesizer.resolve r.spanLength text (languageCode language)) w =
      r.resolved text language w := rfl
  rw [record, if_neg hblank, Run.run_bind, hresolved, if_neg (by simpa using hlocations),
    run_recordFrom_resolved]

/-- What is counted of a recording, by what becomes of each piece: it adds up to the report and to
the places that were found, and an artifact says the same. Without a report nothing is counted. -/
structure Counts (r : Recorder σ) (text language : String) (w : World σ)
    (outcome : Outcome Artifact) (results : List PieceResult) : Prop where
  unreported : r.report? text language w = none → results = [] ∧ ∀ a, outcome ≠ .completed a
  reported : ∀ report, r.report? text language w = some report →
    Tallied results {} report ∧
      results.length = (r.resolved text language w).1.locations.length ∧
      ∀ a, outcome = .completed a →
        a.written = report.written.length ∧ a.missing = report.missing.length

/-- What is counted of an artifact adds up to what it says. -/
theorem Counts.of_artifact {a : Artifact} {results : List PieceResult}
    (h : r.Counts text language w (.completed a) results) :
    results.count .written = a.written ∧
      results.count .failed + results.count .rejected = a.missing := by
  cases hreport : r.report? text language w with
  | none => exact absurd rfl ((h.unreported hreport).2 a)
  | some report =>
    obtain ⟨htallied, -, hsays⟩ := h.reported report hreport
    obtain ⟨hwritten, hmissing⟩ := hsays a rfl
    have hparts := List.length_eq_countP_add_countP (·.rejected) (l := report.missing)
    refine ⟨htallied.written_eq.trans hwritten.symm, ?_⟩
    rw [htallied.failed_eq, htallied.rejected_eq, hmissing, Nat.add_comm]
    simpa using hparts.symm

theorem counts_record (r : Recorder σ) (text language : String) (origin : Origin) (w : World σ) :
    ∃ results, r.Counts text language w (StateT.run (r.record text language origin) w).1 results ∧
      (StateT.run (r.record text language origin) w).2.counters =
        w.counters ++ results.map .piece := by
  by_cases hnothing : isBlankText text = true ∨ (r.resolved text language w).1.locations = []
  · have hreport : r.report? text language w = none := if_pos hnothing
    obtain ⟨hnone, hcounters⟩ := record_of_nothing origin hnothing
    refine ⟨[], ⟨fun _ => ⟨rfl, hnone⟩, fun report h => ?_⟩, ?_⟩
    · cases hreport.symm.trans h
    · exact hcounters.trans (List.append_nil _).symm
  · have hreport : r.report? text language w = _ := if_neg hnothing
    have hnamed : (r.named text language w).counters = w.counters :=
      (Run.keepsCounters_errand r.freshName _).trans
        (r.synthesizer.keepsCounters_resolve r.spanLength text (languageCode language) w)
    obtain ⟨results, hcounters, hresults⟩ := r.fetching.tallied_assemble
      (r.resolved text language w).1.locations (r.destination text language w)
      (r.named text language w)
    rw [hnamed] at hcounters
    rw [run_record_of_found origin hnothing]
    refine ⟨results, ?_⟩
    generalize StateT.run (r.fetching.assemble (r.resolved text language w).1.locations
      (r.destination text language w)) (r.named text language w) = y
      at hcounters hresults hreport ⊢
    obtain ⟨result, w'⟩ := y
    rw [Prod.map_apply]
    cases result with
    | error e =>
      refine ⟨⟨fun _ => ⟨hresults, fun a h => by cases h⟩, fun report h => ?_⟩, hcounters⟩
      cases hreport.symm.trans h
    | ok report =>
      obtain ⟨htallied, hlength⟩ := hresults
      have hsame : ∀ report', r.report? text language w = some report' → report = report' :=
        fun report' h => Option.some.inj (hreport.symm.trans h)
      have hreported : r.report? text language w ≠ none := by
        rw [hreport]
        exact Option.some_ne_none report
      refine ⟨⟨fun h => absurd h hreported, fun report' h => ?_⟩, hcounters⟩
      obtain rfl := hsame report' h
      refine ⟨htallied, hlength, fun a ha => ?_⟩
      obtain ⟨-, rfl⟩ := outcomeOf_eq_completed.mp ha
      exact ⟨rfl, rfl⟩

end Recorder

end Speech

end Tutor
