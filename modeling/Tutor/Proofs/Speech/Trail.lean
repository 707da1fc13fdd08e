import Tutor.Proofs.Speech.Assembly
import Tutor.Speech.Artifact

/-!
# What making audio leaves behind, and what it leaves alone

Whatever becomes of the audio of an answer, all that tells of it in the trail is what the
synthesizer was asked for, the requests that were sent, and what was counted of the pieces. No
session is touched, and no file before the assembly.

* `Event.ofAudio`, `Event.ofFetching` – the events that making audio leaves, and those that fetching
  its pieces does.
* `adds_resolve`, `adds_assemble`, `adds_record` – resolution, assembly, and both.
* `outcomeOf`, `run_recordFrom` – what a recording makes of its assembly.
* `utterances_resolve`, `utterances_record` – what the synthesizer is asked for.
* `keeps_resolve`, `keepsSessions_record` – what they leave alone.
-/

namespace Tutor

/-- Whether an event can come from making audio. -/
def Event.ofAudio : Event → Bool
  | .spoken _ => true
  | .sent _ => true
  | .counted (.piece _) => true
  | _ => false

/-- Whether an event can come from fetching pieces of audio. -/
def Event.ofFetching : Event → Bool
  | .sent _ => true
  | .counted (.piece _) => true
  | _ => false

theorem Event.ofAudio_of_ofFetching (e : Event) (h : e.ofFetching = true) : e.ofAudio = true := by
  cases e with
  | sent r => rfl
  | counted c => cases c <;> first | rfl | cases h
  | called c => cases h
  | spoken u => cases h

namespace Speech

variable {σ : Type}

/-! ### Resolution -/

theorem Synthesizer.adds_askWhole (s : Synthesizer σ) (text code : String) :
    Run.Adds Event.ofAudio (s.askWhole text code) :=
  .bind (.record rfl) fun _ => .errand _ fun _ => rfl

theorem Synthesizer.adds_askSpan (s : Synthesizer σ) (text code : String) :
    Run.Adds Event.ofAudio (s.askSpan text code) :=
  .bind (.record rfl) fun _ => .errand _ fun _ => rfl

theorem Synthesizer.adds_resolveSpans (s : Synthesizer σ) (code : String) (spans : List String) :
    Run.Adds Event.ofAudio (s.resolveSpans code spans) := by
  induction spans with
  | nil => exact .pure _
  | cons span spans ih =>
    refine .bind (s.adds_askSpan span code) fun found => ?_
    refine .bind ih fun r => ?_
    cases found with
    | ok place => exact .pure _
    | error e => exact .pure _

theorem Synthesizer.adds_resolve (s : Synthesizer σ) (spanLength : Nat) (text code : String) :
    Run.Adds Event.ofAudio (s.resolve spanLength text code) := by
  refine .bind (s.adds_askWhole text code) fun found => ?_
  split
  · exact .pure _
  · exact s.adds_resolveSpans code _

/-! ### Assembly -/

namespace Fetching

theorem adds_appendBody (destination : Path) (r : Http.Response) :
    Run.Adds Event.ofFetching (appendBody destination r : Run σ _) := by
  apply Run.Adds.of_keeps
  intro w
  obtain ⟨result, d', hrun, -⟩ := run_appendBody destination r w
  rw [hrun]

theorem adds_prepare (destination : Path) :
    Run.Adds Event.ofFetching (prepare destination : Run σ _) := by
  apply Run.Adds.of_keeps
  intro w
  obtain ⟨result, d', hrun, -⟩ := run_prepare destination w
  rw [hrun]

variable [Outside σ]

theorem adds_appendPiece (f : Fetching) (destination : Path) (location : String) :
    Run.Adds Event.ofFetching (f.appendPiece destination location : Run σ _) := by
  refine .bind (.errand _ fun _ => rfl) fun fetched => ?_
  cases fetched with
  | error e => exact .pure _
  | ok r => exact adds_appendBody destination r

theorem adds_appendAll (f : Fetching) (destination : Path) (index : Nat) (locations : List String)
    (report : Report) :
    Run.Adds Event.ofFetching (f.appendAll destination index locations report : Run σ _) := by
  induction locations generalizing index report with
  | nil =>
    rw [appendAll]
    exact .pure _
  | cons location more ih =>
    rw [appendAll]
    refine .bind (f.adds_appendPiece destination location) fun result => ?_
    cases result with
    | ok n => exact .bind (.record rfl) fun _ => ih _ _
    | error e => exact .bind (.record rfl) fun _ => ih _ _

theorem adds_assemble (f : Fetching) (locations : List String) (destination : Path) :
    Run.Adds Event.ofFetching (f.assemble locations destination : Run σ _) := by
  refine .bind (adds_prepare destination) fun ready => ?_
  cases ready with
  | error e => exact .pure _
  | ok _ =>
    refine .bind (f.adds_appendAll destination 0 locations {}) fun report => ?_
    dsimp only
    split
    · exact .bind (.onDisk _) fun _ => .pure _
    · exact .pure _

end Fetching

/-! ### Recording -/

namespace Recorder

/-- What a recording returns, by what becomes of the pieces that are assembled under its name. -/
def outcomeOf (r : Recorder σ) (origin : Origin) (name : String) :
    Except Fault Report → Outcome Artifact
  | .error e => .degraded ("audio assembly failed: " ++ e.message)
  | .ok report =>
    if report.isEmpty then .degraded "no audio available"
    else
      .completed
        { name := name
          path := Path.join r.folder name
          url := origin.urlOf r.served name
          bytes := report.bytes
          written := report.written.length
          missing := report.missing.length }

theorem outcomeOf_empty (r : Recorder σ) (origin : Origin) (name : String) {report : Report}
    (h : report.isEmpty = true) :
    r.outcomeOf origin name (.ok report) = .degraded "no audio available" := if_pos h

theorem outcomeOf_filled (r : Recorder σ) (origin : Origin) (name : String) {report : Report}
    (h : report.isEmpty = false) :
    r.outcomeOf origin name (.ok report) = .completed
      ⟨name, Path.join r.folder name, origin.urlOf r.served name, report.bytes,
        report.written.length, report.missing.length⟩ := by
  rw [outcomeOf, h, if_neg Bool.false_ne_true]

/-- There is an artifact exactly if a piece was written. -/
theorem outcomeOf_eq_completed {r : Recorder σ} {origin : Origin} {name : String}
    {report : Report} {a : Artifact} :
    r.outcomeOf origin name (.ok report) = .completed a ↔
      report.isEmpty = false ∧
        a = ⟨name, Path.join r.folder name, origin.urlOf r.served name, report.bytes,
          report.written.length, report.missing.length⟩ := by
  cases h : report.isEmpty with
  | true => simp [outcomeOf_empty _ _ _ h]
  | false => simp [outcomeOf_filled _ _ _ h, eq_comm]

/-- Once its places are found, a recording is their assembly under a fresh name. -/
theorem run_recordFrom [Outside σ] (r : Recorder σ) (locations : List String) (origin : Origin)
    {w w₁ : World σ} {name : String}
    (hname : StateT.run (Run.errand r.freshName) w = (name, w₁)) :
    StateT.run (r.recordFrom locations origin) w =
      (StateT.run (r.fetching.assemble locations (Path.ofText (Path.join r.folder name))) w₁).map
        (r.outcomeOf origin name) id := by
  rw [recordFrom, Run.run_bind, hname]
  dsimp only
  rw [Run.run_bind]
  generalize StateT.run (r.fetching.assemble locations _) w₁ = y
  obtain ⟨result, w₂⟩ := y
  cases result with
  | error e => rfl
  | ok report =>
    rw [Prod.map_apply, outcomeOf]
    dsimp only
    split <;> rfl

end Recorder

theorem Recorder.adds_recordFrom [Outside σ] (r : Recorder σ) (locations : List String)
    (origin : Origin) : Run.Adds Event.ofFetching (r.recordFrom locations origin) := by
  refine .bind (.errand _ fun _ => rfl) fun name => ?_
  refine .bind (r.fetching.adds_assemble _ _) fun result => ?_
  cases result with
  | error e => exact .pure _
  | ok report =>
    dsimp only
    split
    · exact .pure _
    · exact .pure _

theorem Recorder.adds_record [Outside σ] (r : Recorder σ) (text language : String)
    (origin : Origin) : Run.Adds Event.ofAudio (r.record text language origin) := by
  rw [record]
  split
  · exact .pure _
  · refine .bind (r.synthesizer.adds_resolve _ _ _) fun found => ?_
    split
    · exact .pure _
    · exact (r.adds_recordFrom _ _).mono Event.ofAudio_of_ofFetching

/-! ### What the synthesizer is asked for -/

theorem Synthesizer.utterances_askWhole (s : Synthesizer σ) (text code : String) (w : World σ) :
    (StateT.run (s.askWhole text code) w).2.utterances = w.utterances ++ [.whole text code] := by
  show ((w.trail ++ [Event.spoken (.whole text code)]) ++ _).filterMap Event.utterance? = _
  rw [List.filterMap_append, filterMap_utterance?_sent, List.append_nil, List.filterMap_append]
  rfl

theorem Synthesizer.utterances_askSpan (s : Synthesizer σ) (text code : String) (w : World σ) :
    (StateT.run (s.askSpan text code) w).2.utterances = w.utterances ++ [.span text code] := by
  show ((w.trail ++ [Event.spoken (.span text code)]) ++ _).filterMap Event.utterance? = _
  rw [List.filterMap_append, filterMap_utterance?_sent, List.append_nil, List.filterMap_append]
  rfl

/-- Every span is asked for once, in order. -/
theorem Synthesizer.utterances_resolveSpans (s : Synthesizer σ) (code : String)
    (spans : List String) (w : World σ) :
    (StateT.run (s.resolveSpans code spans) w).2.utterances =
      w.utterances ++ spans.map (.span · code) := by
  induction spans generalizing w with
  | nil => exact (List.append_nil _).symm
  | cons span spans ih =>
    have hworld : (StateT.run (s.resolveSpans code (span :: spans)) w).2 =
        (StateT.run (s.resolveSpans code spans) (StateT.run (s.askSpan span code) w).2).2 := by
      rw [resolveSpans, Run.run_bind, Run.run_bind]
      cases (StateT.run (s.askSpan span code) w).1 with
      | ok place => rfl
      | error e => rfl
    rw [hworld, ih, utterances_askSpan, List.append_assoc]
    rfl

/-- The whole text is asked for first, and its spans only if that gives nothing. -/
theorem Synthesizer.utterances_resolve (s : Synthesizer σ) (spanLength : Nat)
    (text code : String) (w : World σ) :
    (StateT.run (s.resolve spanLength text code) w).2.utterances =
      w.utterances ++ .whole text code ::
        match ((s.bulk text code).run w.outside).value with
        | .ok (_ :: _) => []
        | _ => (segment text spanLength).map (.span · code) := by
  have hvalue : (StateT.run (s.askWhole text code) w).1 = ((s.bulk text code).run w.outside).value :=
    rfl
  have hspans := s.utterances_resolveSpans code (segment text spanLength)
    (StateT.run (s.askWhole text code) w).2
  rw [utterances_askWhole, List.append_assoc] at hspans
  rw [resolve, Run.run_bind, hvalue]
  cases ((s.bulk text code).run w.outside).value with
  | error e => exact hspans
  | ok places =>
    cases places with
    | nil => exact hspans
    | cons place places => exact s.utterances_askWhole text code w

/-- A recording asks for the places of its text, and for nothing after that. -/
theorem Recorder.utterances_record [Outside σ] (r : Recorder σ) (text language : String)
    (origin : Origin) (w : World σ) :
    (StateT.run (r.record text language origin) w).2.utterances =
      if Text.isBlankText text then w.utterances
      else (StateT.run (r.synthesizer.resolve r.spanLength text (languageCode language))
        w).2.utterances := by
  rw [record]
  split
  · rfl
  · rw [Run.run_bind]
    split
    · rfl
    · refine (r.adds_recordFrom _ _).keeps_picked (fun e he => ?_) _
      cases e with
      | spoken u => cases he
      | _ => rfl

/-! ### What is left alone -/

section Views

variable {γ : Type} {view : World σ → γ}

/-- Resolution leaves alone what asking for texts and spans does. -/
theorem Synthesizer.keeps_resolve_of {s : Synthesizer σ}
    (hwhole : ∀ text code, Run.Keeps view (s.askWhole text code))
    (hspan : ∀ text code, Run.Keeps view (s.askSpan text code)) (spanLength : Nat)
    (text code : String) : Run.Keeps view (s.resolve spanLength text code) := by
  have hspans : ∀ spans, Run.Keeps view (s.resolveSpans code spans) := by
    intro spans
    induction spans with
    | nil => exact .pure _
    | cons span spans ih =>
      refine .bind (hspan span code) fun found => .bind ih fun r => ?_
      cases found with
      | ok place => exact .pure _
      | error e => exact .pure _
  refine .bind (hwhole text code) fun x => ?_
  split
  · exact .pure _
  · exact hspans _

theorem Synthesizer.keeps_resolve (hview : World.Inner view) (s : Synthesizer σ)
    (spanLength : Nat) (text code : String) : Run.Keeps view (s.resolve spanLength text code) :=
  s.keeps_resolve_of (fun _ _ => .bind (hview.record _) fun _ => hview.errand _)
    (fun _ _ => .bind (hview.record _) fun _ => hview.errand _) spanLength text code

end Views

theorem Fetching.keepsSessions_assemble [Outside σ] (f : Fetching) (locations : List String)
    (destination : Path) : Run.KeepsSessions (f.assemble locations destination : Run σ _) := by
  intro w
  rcases run_assemble f locations destination w with
    ⟨e, d', hrun⟩ | ⟨report, w₁, d₀, d', -, -, hall, -, -, hrun⟩
  · rw [hrun]
  · rw [hrun]
    exact hall.sessions

theorem Recorder.keepsSessions_record [Outside σ] (r : Recorder σ) (text language : String)
    (origin : Origin) : Run.KeepsSessions (r.record text language origin) := by
  rw [record]
  split
  · exact .pure _
  · refine .bind (r.synthesizer.keeps_resolve World.inner_sessions _ _ _) fun found => ?_
    split
    · exact .pure _
    · refine .bind (World.inner_sessions.errand _) fun name => ?_
      refine .bind (r.fetching.keepsSessions_assemble _ _) fun x => ?_
      cases x with
      | error e => exact .pure _
      | ok report =>
        dsimp only
        split
        · exact .pure _
        · exact .pure _

end Speech

end Tutor
