import Tutor.Proofs.Disk.Files
import Tutor.Proofs.Speech.Ending
import Tutor.Proofs.Speech.Trail

/-!
# What a recording returns

A recording returns an artifact exactly if the text is heard: it was resolved into places, the file
could be prepared, and a piece arrived. Then the artifact says what stands on the disk. Otherwise no
file is there, except one that was there before on a file system that is read-only; and where it did
not come to the pieces, nothing was asked for.

* `Synthesizer.Silent`, `keeps_requests_resolve` – synthesizers that send no requests.
* `Course`, `course_record` – the ways that a recording can go.
* `Recordable`, `Recording`, `recording_record` – when there is an artifact, and what it says.
-/

namespace Tutor.Speech

open Tutor.Text

variable {σ : Type}

/-! ### Silent synthesizers -/

/-- A synthesizer that finds its places without a request. -/
def Synthesizer.Silent (s : Synthesizer σ) : Prop :=
  ∀ text code x, ((s.bulk text code).run x).sent = [] ∧ ((s.single text code).run x).sent = []

theorem Voice.silent_synthesizer (v : Voice) : (v.synthesizer : Synthesizer σ).Silent := by
  intro text code x
  exact ⟨rfl, rfl⟩

theorem keeps_requests_spoken (u : Utterance) :
    Run.Keeps World.requests (Run.record (.spoken u) : Run σ Unit) := by
  intro w
  show (w.trail ++ [Event.spoken u]).filterMap Event.request? = _
  rw [List.filterMap_append]
  exact List.append_nil _

theorem keeps_requests_errand {α : Type} {e : Errand σ α} (h : ∀ x, (e.run x).sent = []) :
    Run.Keeps World.requests (Run.errand e) := by
  intro w
  show (w.trail ++ (e.run w.outside).sent.map Event.sent).filterMap Event.request? = _
  rw [h, List.map_nil, List.append_nil, World.requests]

/-- A silent synthesizer is still silent when it is asked for one span after another. -/
theorem Synthesizer.Silent.keeps_requests_resolve {s : Synthesizer σ} (h : s.Silent)
    (spanLength : Nat) (text code : String) :
    Run.Keeps World.requests (s.resolve spanLength text code) :=
  s.keeps_resolve_of
    (fun text code => .bind (keeps_requests_spoken _) fun _ =>
      keeps_requests_errand fun x => (h text code x).1)
    (fun text code => .bind (keeps_requests_spoken _) fun _ =>
      keeps_requests_errand fun x => (h text code x).2) spanLength text code

namespace Recorder

variable {r : Recorder σ} {text language : String} {origin : Origin} {w w' : World σ}

/-- The places found for a text, and the world in which they are found. -/
def resolved (r : Recorder σ) (text language : String) (w : World σ) : Resolution × World σ :=
  StateT.run (r.synthesizer.resolve r.spanLength text (languageCode language)) w

theorem disk_resolved (r : Recorder σ) (text language : String) (w : World σ) :
    (r.resolved text language w).2.disk = w.disk :=
  r.synthesizer.keeps_resolve World.inner_disk _ _ _ w

variable [Outside σ]

/-- Naming an artifact, once the places are found. -/
def naming (r : Recorder σ) (text language : String) (w : World σ) : Errand.Yield σ String :=
  r.freshName.run (r.resolved text language w).2.outside

/-- The path to the artifact. -/
def destination (r : Recorder σ) (text language : String) (w : World σ) : Path :=
  Path.ofText (Path.join r.folder (r.naming text language w).value)

/-- The world once an artifact is named. -/
def named (r : Recorder σ) (text language : String) (w : World σ) : World σ :=
  (StateT.run (Run.errand r.freshName) (r.resolved text language w).2).2

/-- Taking a name touches no file. -/
theorem disk_named (r : Recorder σ) (text language : String) (w : World σ) :
    (r.named text language w).disk = w.disk := r.disk_resolved text language w

/-- Taking a name sends nothing. -/
theorem requests_named (r : Recorder σ) (text language : String) (w : World σ) :
    (r.named text language w).requests = (r.resolved text language w).2.requests :=
  keeps_requests_errand (fun _ => rfl) _

theorem outside_named (r : Recorder σ) (text language : String) (w : World σ) :
    (r.named text language w).outside = (r.naming text language w).outside := rfl

/-- From the places found for a text, a recording goes as their assembly does. -/
theorem run_recordFrom_resolved (r : Recorder σ) (text language : String) (origin : Origin)
    (w : World σ) :
    StateT.run (r.recordFrom (r.resolved text language w).1.locations origin)
        (r.resolved text language w).2 =
      (StateT.run (r.fetching.assemble (r.resolved text language w).1.locations
        (r.destination text language w)) (r.named text language w)).map
        (r.outcomeOf origin (r.naming text language w).value) id := by
  rw [destination]
  exact r.run_recordFrom _ origin rfl

/-! ### The ways of a recording -/

omit [Outside σ] in
/-- The path to an artifact leads on from the folder, whatever the settings make of its name. -/
theorem isEmpty_artifactPath (r : Recorder σ) (made : Timestamp) (draw : Nat) :
    (Path.ofText (Path.join r.folder (artifactName r.beginning r.extension made draw))).isEmpty =
      false := by
  have hmark : '_' ∈ (artifactName r.beginning r.extension made draw).toList := by
    simp [artifactName]
  have hnames := Path.names_ne_nil (Path.mem_join hmark r.folder) (by decide) (by decide)
  simp [Path.isEmpty, hnames]

/-- What an artifact says is so: its name, path and address, the number of pieces and their sum, and
the number of bytes that its file holds. -/
structure Kept (r : Recorder σ) (name : String) (origin : Origin) (locations : List String)
    (a : Artifact) (d : Disk) : Prop where
  name_eq : a.name = name
  path_eq : a.path = Path.join r.folder name
  url_eq : a.url = origin.urlOf r.served name
  written_pos : 0 < a.written
  written_add_missing : a.written + a.missing = locations.length
  file : ∃ bytes, d.contents (Path.ofText a.path) = .ok bytes ∧ bytes.length = a.bytes

/-- How a recording goes: what it returns, and the world afterwards. -/
inductive Course (r : Recorder σ) (text language : String) (origin : Origin) (w : World σ) :
    Outcome Artifact → World σ → Prop
  /-- There is nothing to speak. -/
  | blank : isBlankText text = true → Course r text language origin w .skipped w
  /-- The text has no places. -/
  | unresolved (why : String) : isBlankText text = false →
      (r.resolved text language w).1.locations = [] →
      Course r text language origin w (.degraded why) (r.resolved text language w).2
  /-- The file could not be prepared. -/
  | unprepared {w' : World σ} (why : String) : isBlankText text = false →
      (r.resolved text language w).1.locations ≠ [] →
      ¬ Fetching.Preparable (r.destination text language w) w.disk →
      w'.requests = (r.resolved text language w).2.requests →
      (∀ bytes, w'.disk.contents (r.destination text language w) = .ok bytes →
        w.disk.Retains (r.destination text language w) bytes) →
      Course r text language origin w (.degraded why) w'
  /-- No piece arrived. -/
  | unheard {w' : World σ} (why : String) : isBlankText text = false →
      (r.resolved text language w).1.locations ≠ [] →
      Fetching.Preparable (r.destination text language w) w.disk →
      ¬ r.fetching.Heard (r.destination text language w) (r.naming text language w).outside
        (r.resolved text language w).1.locations →
      (∀ bytes, w'.disk.contents (r.destination text language w) ≠ .ok bytes) →
      Course r text language origin w (.degraded why) w'
  /-- There is an artifact. -/
  | artifact {w' : World σ} {a : Artifact} : isBlankText text = false →
      (r.resolved text language w).1.locations ≠ [] →
      Fetching.Preparable (r.destination text language w) w.disk →
      r.fetching.Heard (r.destination text language w) (r.naming text language w).outside
        (r.resolved text language w).1.locations →
      r.Kept (r.naming text language w).value origin (r.resolved text language w).1.locations a
        w'.disk →
      Course r text language origin w (.completed a) w'

/-- Once the places are found, the rest is an assembly under a fresh name. -/
theorem course_recordFrom (hblank : isBlankText text = false)
    (hfound : (r.resolved text language w).1.locations ≠ []) :
    Course r text language origin w
      (StateT.run (r.recordFrom (r.resolved text language w).1.locations origin)
        (r.resolved text language w).2).1
      (StateT.run (r.recordFrom (r.resolved text language w).1.locations origin)
        (r.resolved text language w).2).2 := by
  have hpath : (r.destination text language w).isEmpty = false := r.isEmpty_artifactPath _ _
  have hrequests := r.requests_named text language w
  have hended := r.fetching.ended_assemble (r.resolved text language w).1.locations
    (r.named text language w) hpath
  rw [run_recordFrom_resolved]
  generalize StateT.run (r.fetching.assemble _ _) (r.named text language w) = y at hended ⊢
  obtain ⟨result, w₂⟩ := y
  rw [Prod.map_apply]
  dsimp only at hended ⊢
  cases hended with
  | unprepared e hunprepared hsame hnone =>
    rw [disk_named] at hunprepared hnone
    exact .unprepared _ hblank hfound hunprepared hrequests hnone
  | empty hprepared hunheard hempty hmissing helsewhere =>
    rw [disk_named] at hprepared
    rw [outside_named] at hunheard
    rw [r.outcomeOf_empty _ _ hempty]
    refine .unheard _ hblank hfound hprepared hunheard fun bytes hbytes => ?_
    cases hmissing.symm.trans hbytes
  | @filled report _ bytes hprepared hheard hfull hsum hbytes hlength helsewhere =>
    rw [disk_named] at hprepared
    rw [outside_named] at hheard
    rw [r.outcomeOf_filled _ _ hfull]
    have hwritten : 0 < report.written.length := by
      rw [Report.isEmpty] at hfull
      exact List.length_pos_iff.mpr (by simpa using hfull)
    exact .artifact hblank hfound hprepared hheard
      ⟨rfl, rfl, rfl, hwritten, hsum, bytes, hbytes, hlength⟩

theorem course_record (r : Recorder σ) (text language : String) (origin : Origin) (w : World σ) :
    Course r text language origin w (StateT.run (r.record text language origin) w).1
      (StateT.run (r.record text language origin) w).2 := by
  rw [record]
  cases hblank : isBlankText text with
  | true => exact .blank hblank
  | false =>
    have hresolved :
        StateT.run (r.synthesizer.resolve r.spanLength text (languageCode language)) w =
        r.resolved text language w := rfl
    rw [if_neg Bool.false_ne_true, Run.run_bind, hresolved]
    by_cases hfound : (r.resolved text language w).1.locations = []
    · rw [hfound]
      exact .unresolved _ hblank hfound
    · rw [if_neg (by simpa using hfound)]
      exact course_recordFrom hblank hfound

/-- A recording is skipped exactly if there is nothing to speak. -/
theorem record_eq_skipped_iff (r : Recorder σ) (text language : String) (origin : Origin)
    (w : World σ) :
    (StateT.run (r.record text language origin) w).1 = .skipped ↔ isBlankText text = true := by
  have hcourse := course_record r text language origin w
  generalize StateT.run (r.record text language origin) w = y at hcourse ⊢
  obtain ⟨outcome, w'⟩ := y
  dsimp only at hcourse ⊢
  cases hcourse with
  | blank hblank => simp [hblank]
  | unresolved why hblank => simp [hblank]
  | unprepared why hblank => simp [hblank]
  | unheard why hblank => simp [hblank]
  | artifact hblank => simp [hblank]

/-! ### What a recording returns -/

/-- What it takes for a text to be recorded: places, a file that can be prepared, and a piece that
arrives and can be written. -/
structure Recordable (r : Recorder σ) (text language : String) (w : World σ) : Prop where
  resolved : (r.resolved text language w).1.locations ≠ []
  prepared : Fetching.Preparable (r.destination text language w) w.disk
  heard : r.fetching.Heard (r.destination text language w) (r.naming text language w).outside
    (r.resolved text language w).1.locations

/-- What a recording returns and leaves behind. -/
structure Recording (r : Recorder σ) (text language : String) (origin : Origin) (w : World σ)
    (outcome : Outcome Artifact) (w' : World σ) : Prop where
  skipped : outcome = .skipped ↔ isBlankText text = true
  completed : (∃ a, outcome = .completed a) ↔
    isBlankText text = false ∧ r.Recordable text language w
  degraded : (∃ why, outcome = .degraded why) ↔
    isBlankText text = false ∧ ¬ r.Recordable text language w
  /-- An artifact says what stands on the disk. -/
  kept : ∀ a, outcome = .completed a → r.Kept (r.naming text language w).value origin
    (r.resolved text language w).1.locations a w'.disk
  /-- Without one, there is no file: no file is touched before a name is taken for it, and none is
  there afterwards but one that was there before, on a file system that is read-only. -/
  noFile : (∀ a, outcome ≠ .completed a) →
    if isBlankText text ∨ (r.resolved text language w).1.locations = [] then w'.disk = w.disk
    else ∀ bytes, w'.disk.contents (r.destination text language w) = .ok bytes →
      w.disk.Retains (r.destination text language w) bytes
  /-- Where it does not come to the pieces, only the synthesizer can have sent a request. -/
  requests : (r.resolved text language w).1.locations = [] ∨
      ¬ Fetching.Preparable (r.destination text language w) w.disk →
    if isBlankText text then w'.requests = w.requests
    else w'.requests = (r.resolved text language w).2.requests ∧
      (r.synthesizer.Silent → w'.requests = w.requests)

theorem Course.noFile {outcome : Outcome Artifact} (h : Course r text language origin w outcome w')
    (hnone : ∀ a, outcome ≠ .completed a) :
    if isBlankText text ∨ (r.resolved text language w).1.locations = [] then w'.disk = w.disk
    else ∀ bytes, w'.disk.contents (r.destination text language w) = .ok bytes →
      w.disk.Retains (r.destination text language w) bytes := by
  cases h with
  | blank hblank => rw [if_pos (.inl hblank)]
  | unresolved why hblank hfound =>
    rw [if_pos (.inr hfound)]
    exact r.disk_resolved text language w
  | unprepared why hblank hfound hprepared hrequests hfile =>
    rw [if_neg (by simp [hblank, hfound])]
    exact hfile
  | unheard why hblank hfound hprepared hheard hfile =>
    rw [if_neg (by simp [hblank, hfound])]
    exact fun bytes hbytes => absurd hbytes (hfile bytes)
  | artifact => exact absurd rfl (hnone _)

theorem Course.requests {outcome : Outcome Artifact}
    (h : Course r text language origin w outcome w')
    (hearly : (r.resolved text language w).1.locations = [] ∨
      ¬ Fetching.Preparable (r.destination text language w) w.disk) :
    if isBlankText text then w'.requests = w.requests
    else w'.requests = (r.resolved text language w).2.requests ∧
      (r.synthesizer.Silent → w'.requests = w.requests) := by
  have hsilent : r.synthesizer.Silent → (r.resolved text language w).2.requests = w.requests :=
    fun hs => hs.keeps_requests_resolve _ _ _ w
  cases h with
  | blank hblank => rw [if_pos hblank]
  | unresolved why hblank hfound =>
    rw [hblank, if_neg Bool.false_ne_true]
    exact ⟨rfl, hsilent⟩
  | unprepared why hblank hfound hprepared hrequests hfile =>
    rw [hblank, if_neg Bool.false_ne_true, hrequests]
    exact ⟨rfl, hsilent⟩
  | unheard why hblank hfound hprepared hheard hfile =>
    exact absurd hearly (not_or.mpr ⟨hfound, not_not_intro hprepared⟩)
  | artifact hblank hfound hprepared hheard hkept =>
    exact absurd hearly (not_or.mpr ⟨hfound, not_not_intro hprepared⟩)

/-- What can be recorded is recorded. -/
theorem exists_artifact (origin : Origin) (hblank : isBlankText text = false)
    (h : r.Recordable text language w) :
    ∃ a, (StateT.run (r.record text language origin) w).1 = .completed a := by
  have hcourse := course_record r text language origin w
  generalize StateT.run (r.record text language origin) w = y at hcourse ⊢
  obtain ⟨outcome, w'⟩ := y
  dsimp only at hcourse ⊢
  cases hcourse with
  | blank hsilent => cases hblank.symm.trans hsilent
  | unresolved why _ hfound => exact absurd hfound h.resolved
  | unprepared why _ _ hprepared => exact absurd h.prepared hprepared
  | unheard why _ _ _ hheard => exact absurd h.heard hheard
  | artifact => exact ⟨_, rfl⟩

/-- An artifact says what stands on the disk. -/
theorem kept_of_artifact {a : Artifact}
    (h : (StateT.run (r.record text language origin) w).1 = .completed a) :
    r.Kept (r.naming text language w).value origin (r.resolved text language w).1.locations a
      (StateT.run (r.record text language origin) w).2.disk := by
  have hcourse := course_record r text language origin w
  generalize StateT.run (r.record text language origin) w = y at h hcourse ⊢
  obtain ⟨outcome, w'⟩ := y
  dsimp only at h hcourse ⊢
  subst h
  cases hcourse with
  | artifact _ _ _ _ hkept => exact hkept

end Recorder

end Tutor.Speech
