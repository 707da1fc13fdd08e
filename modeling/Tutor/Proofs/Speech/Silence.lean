import Tutor.Proofs.Speech.Counting
import Tutor.World.Replay

/-!
# Artifacts without a sound

Whether a recording has an artifact is told by the pieces that arrive, and a piece arrives if its
answer comes to an end, whatever is in it. So the file of an artifact may be empty: it is exactly if
no answer that arrived has a byte.

* `Hears` – the answers that arrive.
* `Progress.contents_eq_nil_iff` – when the file of an assembly is empty.
* `exists_hears`, `empty_iff_soundless` – for an artifact an answer arrived; when its file is empty.
* `completed_without_byte` – an artifact with an empty file.
-/

namespace Tutor.Speech

open Tutor.Http Tutor.Text

variable {σ : Type} [Outside σ]

/-! ### The file of an assembly -/

namespace Fetching

variable {f : Fetching} {locations : List String} {destination : Path} {s : σ} {w w₀ : World σ}
  {report : Report}

/-- An answer that arrives for one of the pieces, when all before it were asked for. -/
def Hears (f : Fetching) (s : σ) (locations : List String) (answer : Response) : Prop :=
  ∃ (i : Nat) (location : String), locations[i]? = some location ∧
    f.Arrives (f.outsideAt s locations i) location answer

theorem hears_iff {answer : Response} :
    f.Hears s locations answer ↔
      ∃ (i : Nat) (y : _), (f.visits s locations)[i]? = some y ∧ y.value = .ok answer ∧
        answer.isWhole = true := by
  constructor
  · rintro ⟨i, location, hlocation, harrives⟩
    obtain ⟨hvalue, hwhole⟩ := arrives_iff.mp harrives
    refine ⟨i, _, ?_, hvalue, hwhole⟩
    rw [getElem?_visits, hlocation]
    rfl
  · rintro ⟨i, y, hy, hvalue, hwhole⟩
    rw [getElem?_visits, Option.map_eq_some_iff] at hy
    obtain ⟨location, hlocation, rfl⟩ := hy
    exact ⟨i, location, hlocation, arrives_iff.mpr ⟨hvalue, hwhole⟩⟩

theorem Arrived.exists_hears {i : Nat} (h : f.Arrived s locations i) :
    ∃ answer, f.Hears s locations answer := by
  obtain ⟨location, answer, hlocation, harrives⟩ := h
  exact ⟨answer, i, location, hlocation, harrives⟩

/-- The file of the pieces is empty exactly if every answer that arrives is. No answer is left out,
and none is in the file that did not arrive. -/
theorem Progress.contents_eq_nil_iff
    (h : Progress f destination locations w₀ locations.length report w)
    (hopens : ∃ x, w₀.disk.openFile destination = .ok x) (hwritten : report.written ≠ []) :
    ∃ bytes, w.disk.contents destination = .ok bytes ∧ report.bytes = bytes.length ∧
      (bytes = [] ↔ ∀ answer, f.Hears w₀.outside locations answer → answer.body = []) := by
  obtain ⟨answers, hanswers, -, hlength, hcontents⟩ := h.file
  refine ⟨_, hcontents hwritten, hlength, ?_⟩
  rw [List.flatMap_eq_nil_iff]
  constructor
  · rintro hempty answer ⟨i, location, hlocation, harrives⟩
    -- The piece is among those written, so its answer is among those in the file.
    have hi := (h.mem_written_iff hopens i).mpr ⟨location, answer, hlocation, harrives⟩
    obtain ⟨j, hj, rfl⟩ := List.getElem_of_mem hi
    obtain ⟨y, hy, hvalue, -⟩ := hanswers.get hj (hanswers.length_eq ▸ hj)
    rw [List.get_eq_getElem, getElem?_visits, hlocation] at hy
    obtain rfl := Option.some.inj hy
    obtain rfl : answers.get ⟨j, hanswers.length_eq ▸ hj⟩ = answer :=
      Except.ok.inj (hvalue.symm.trans (arrives_iff.mp harrives).1)
    exact hempty _ (List.get_mem _ _)
  · intro hempty answer hanswer
    obtain ⟨j, hj, rfl⟩ := List.getElem_of_mem hanswer
    obtain ⟨y, hy, hvalue, hwhole⟩ := hanswers.get (hanswers.length_eq.symm ▸ hj) hj
    exact hempty _ (hears_iff.mpr ⟨_, y, hy, hvalue, hwhole⟩)

end Fetching

/-! ### The file of an artifact -/

namespace Recorder

variable {r : Recorder σ} {text language : String} {origin : Origin} {w : World σ} {a : Artifact}

/-- An answer that arrives for one of the places found for a text. -/
def Hears (r : Recorder σ) (text language : String) (w : World σ) (answer : Response) : Prop :=
  r.fetching.Hears (r.naming text language w).outside (r.resolved text language w).1.locations
    answer

/-- Behind an artifact stands an assembly that wrote a piece. -/
theorem exists_progress (h : (StateT.run (r.record text language origin) w).1 = .completed a) :
    ∃ d₀ report, (∃ x, d₀.openFile (r.destination text language w) = .ok x) ∧
      Fetching.Progress r.fetching (r.destination text language w)
        (r.resolved text language w).1.locations { r.named text language w with disk := d₀ }
        (r.resolved text language w).1.locations.length report
        (StateT.run (r.record text language origin) w).2 ∧
      report.written ≠ [] ∧ a.bytes = report.bytes ∧
      Path.ofText a.path = r.destination text language w := by
  by_cases hnothing : isBlankText text = true ∨ (r.resolved text language w).1.locations = []
  · exact absurd h ((record_of_nothing origin hnothing).1 a)
  · rw [run_record_of_found origin hnothing] at h ⊢
    cases hcleared : Fetching.cleared (r.destination text language w)
      (r.named text language w).disk with
    | error why' =>
      obtain ⟨d', hfails, -⟩ := Fetching.run_assemble_unprepared r.fetching
        (r.resolved text language w).1.locations hcleared
      rw [hfails] at h
      cases h
    | ok d₀ =>
      obtain ⟨report, w₁, d', -, hprepared, hall, hkept, -, hassembled⟩ :=
        Fetching.run_assemble_prepared (f := r.fetching)
          (r.resolved text language w).1.locations (Fetching.run_prepare_ok hcleared)
      rw [hassembled, Prod.map_apply] at h ⊢
      obtain ⟨hfull, rfl⟩ := outcomeOf_eq_completed.mp h
      have hwritten : report.written ≠ [] := by simpa [Report.isEmpty] using hfull
      obtain rfl := hkept hwritten
      -- There is a file in the end, so the path asks for none but a file.
      obtain ⟨answers, -, -, -, hcontents⟩ := hall.file
      obtain ⟨p, hlocate⟩ := Disk.contents_eq_ok.mp (hcontents hwritten)
      have hopens :=
        hprepared.opens (Disk.isFolder_of_locate hlocate) (r.isEmpty_artifactPath _ _)
      exact ⟨d₀, report, hopens, hall, hwritten, rfl, rfl⟩

/-- For an artifact, an answer arrived. -/
theorem exists_hears (h : (StateT.run (r.record text language origin) w).1 = .completed a) :
    ∃ answer, r.Hears text language w answer := by
  obtain ⟨d₀, report, hopens, hall, hwritten, -⟩ := exists_progress h
  obtain ⟨i, hi⟩ := List.exists_mem_of_ne_nil _ hwritten
  exact ((hall.mem_written_iff hopens i).mp hi).exists_hears

/-- An artifact has a file of as many bytes as it says, for which an answer arrived. The file is
empty exactly if no answer that arrived has a byte. -/
theorem empty_iff_soundless
    (h : (StateT.run (r.record text language origin) w).1 = .completed a) :
    (∃ answer, r.Hears text language w answer) ∧
      ∃ bytes, (StateT.run (r.record text language origin) w).2.disk.contents (Path.ofText a.path) =
          .ok bytes ∧
        a.bytes = bytes.length ∧
        (bytes = [] ↔ ∀ answer, r.Hears text language w answer → answer.body = []) := by
  obtain ⟨d₀, report, hopens, hall, hwritten, hbytes, hpath⟩ := exists_progress h
  rw [hpath, hbytes]
  exact ⟨exists_hears h, hall.contents_eq_nil_iff hopens hwritten⟩

/-! A text that has one place, where everything but the body of the answer is given. -/

namespace OnePiece

def recorder : Recorder Replay where
  synthesizer :=
    { bulk := fun _ _ => pure (.ok ["http://a.b/1"])
      single := fun _ _ => pure (.error (.speech "mute")) }
  spanLength := 180
  fetching := ⟨.ofEntries ["a.b"], 1000, 5⟩
  folder := "."
  served := "/audio"
  beginning := "lesson"
  extension := "mp3"

def answer (body : List UInt8) : Response := { status := 200, body := body }

def heard (body : List UInt8) : Replay := ⟨[.exchanged (.answered (answer body))], none⟩

def world (body : List UInt8) : World Replay where
  outside := ⟨.time ⟨3, 0⟩ :: .number 6 :: (heard body).known, none⟩

def fileName : String := artifactName "lesson" "mp3" ⟨3, 0⟩ 6

variable {body : List UInt8}

theorem naming_world :
    recorder.naming "Hi" "English" (world body) = ⟨fileName, [], heard body⟩ := rfl

theorem resolved_world :
    (recorder.resolved "Hi" "English" (world body)).1.locations = ["http://a.b/1"] := rfl

theorem destination_world :
    recorder.destination "Hi" "English" (world body) = ⟨false, [fileName], false, false⟩ := by
  show Path.ofText (Path.join "." fileName) = _
  decide +kernel

variable (hfetch : ((recorder.fetching.fetch "http://a.b/1").run (heard body)).value =
  .ok (answer body))

include hfetch

/-- The one answer is all that is heard. -/
theorem eq_of_hears {x : Response} (hx : recorder.Hears "Hi" "English" (world body) x) :
    x = answer body := by
  rw [Hears, naming_world, resolved_world] at hx
  obtain ⟨i, location, hlocation, harrives⟩ := hx
  cases i with
  | zero =>
    obtain rfl := Option.some.inj hlocation
    exact Except.ok.inj ((Fetching.arrives_iff.mp harrives).1.symm.trans hfetch)
  | succ i => cases hlocation

theorem exists_completed :
    ∃ a, (StateT.run (recorder.record "Hi" "English" {}) (world body)).1 = .completed a := by
  refine exists_artifact {} (by decide) ⟨?_, ?_, ?_⟩
  · rw [resolved_world]
    exact List.cons_ne_nil _ _
  · rw [destination_world]
    exact Fetching.preparable_name rfl rfl (by decide +kernel) (by decide +kernel)
      (by decide +kernel) (by simp [world, Disk.at?])
  · rw [destination_world, naming_world, resolved_world]
    exact ⟨rfl, 0, _, _, rfl, Fetching.arrives_iff.mpr ⟨hfetch, rfl⟩⟩

end OnePiece

open OnePiece

/-- One answer arrives that has a byte. -/
theorem sound_of_one_byte :
    ∃ a, (StateT.run (recorder.record "Hi" "English" {}) (world [7])).1 = .completed a ∧
      ∃ bytes, (StateT.run (recorder.record "Hi" "English" {}) (world [7])).2.disk.contents
          (Path.ofText a.path) = .ok bytes ∧
        a.bytes = bytes.length ∧ bytes ≠ [] := by
  have hfetch : ((recorder.fetching.fetch "http://a.b/1").run (heard [7])).value =
      .ok (answer [7]) := by decide +kernel
  obtain ⟨a, ha⟩ := exists_completed hfetch
  obtain ⟨⟨x, hx⟩, bytes, hcontents, hlength, hempty⟩ := empty_iff_soundless ha
  refine ⟨a, ha, bytes, hcontents, hlength, fun hnil => ?_⟩
  have hsilent := hempty.mp hnil x hx
  rw [eq_of_hears hfetch hx] at hsilent
  cases hsilent

/-- One answer arrives that is empty. Then there is an artifact, with an address and without a
byte. -/
theorem completed_without_byte :
    ∃ a, (StateT.run (recorder.record "Hi" "English" {}) (world [])).1 = .completed a ∧
      a.url = "http://localhost:5000/audio/lesson_3000_0000006.mp3" ∧
      (StateT.run (recorder.record "Hi" "English" {}) (world [])).2.disk.contents
        (Path.ofText a.path) = .ok [] := by
  have hfetch : ((recorder.fetching.fetch "http://a.b/1").run (heard [])).value =
      .ok (answer []) := by decide +kernel
  obtain ⟨a, ha⟩ := exists_completed hfetch
  obtain ⟨d₀, report, hopens, hall, hwritten, hbytes, hpath⟩ := exists_progress ha
  obtain ⟨bytes, hcontents, -, hempty⟩ := hall.contents_eq_nil_iff hopens hwritten
  obtain rfl : bytes = [] := hempty.mpr fun x hx => eq_of_hears hfetch hx ▸ rfl
  refine ⟨a, ha, ?_, hpath ▸ hcontents⟩
  rw [(kept_of_artifact ha).url_eq, naming_world]
  decide +kernel

end Recorder

end Tutor.Speech
