import Tutor.Proofs.Ask.Extras
import Tutor.Proofs.Speech.Counting

/-!
# What is counted of questions

Every question is counted once, by how it ended. An answer counts the outcomes of its summary and of
its audio, each once, and a question without an answer counts neither. In between the pieces of the
audio are counted, as many as there are places for it. So the counters can be read off from what was
returned, whatever the language model, the synthesizer and the network do.

* `Judged` – how a question ends, and the verdict on it.
* `assembly?` – the places and the report of the audio, if it comes to that.
* `Counted`, `exists_counted` – what is counted of one question.
* `Counts`, `counts_perform` – what is counted of one call of a service.
* `Metered`, `metered_after` – what is counted of all of them.
-/

namespace Tutor

/-! ### Counters by kind -/

namespace Counter

/-- The verdict that was counted, if one was. -/
def verdict? : Counter → Option Verdict
  | .asked v => some v
  | _ => none

/-- The outcome of a summary that was counted, if one was. -/
def summary? : Counter → Option Outcome.Label
  | .simplified l => some l
  | _ => none

/-- The outcome of audio that was counted, if one was. -/
def audio? : Counter → Option Outcome.Label
  | .voiced l => some l
  | _ => none

/-- The result of a piece that was counted, if one was. -/
def piece? : Counter → Option PieceResult
  | .piece p => some p
  | _ => none

theorem filterMap_piece? (pieces : List PieceResult) :
    (pieces.map Counter.piece).filterMap piece? = pieces := by
  rw [List.filterMap_map]
  exact List.filterMap_some

/-- The pieces aside, an answer counts three things. -/
theorem filterMap_answered {γ : Type} {pick : Counter → Option γ}
    (hpick : ∀ p, pick (.piece p) = none) (pieces : List PieceResult)
    (summary audio : Outcome.Label) :
    (Counter.simplified summary ::
        (pieces.map .piece ++ [.voiced audio, .asked .ok])).filterMap pick =
      [Counter.simplified summary, .voiced audio, .asked .ok].filterMap pick := by
  have hpieces : (pieces.map Counter.piece).filterMap pick = [] := by
    rw [List.filterMap_map]
    exact List.filterMap_eq_nil_iff.mpr fun p _ => hpick p
  rw [List.filterMap_cons, List.filterMap_append, hpieces, List.nil_append, ← List.filterMap_cons]

end Counter

namespace Ask.Service

open Tutor.Text Tutor.Speech

variable {σ : Type} [Outside σ]

/-! ### What a question comes to -/

/-- How a question ends, and the verdict on it. -/
inductive Judged (s : Service σ) (r : Request) (w : World σ) :
    Except Fault Reply → Verdict → Prop
  | unconfigured : s.provider.isConfigured = false →
      Judged s r w (.error (.credential s.provider.credential)) .unconfigured
  | invalid : s.provider.isConfigured = true →
      (∀ question, r.question = some question → isBlankText question = true) →
      Judged s r w (.error (.request "question is required")) .invalid
  | failed {question : String} {e : Fault} : s.accepted? r = some question →
      s.primary r question w = .error e → Judged s r w (.error e) .providerError
  | answered {question : String} {c : Tutor.Reply} {reply : Reply} :
      s.accepted? r = some question → s.primary r question w = .ok c →
      reply.text = Answer.textOf c → Judged s r w (.ok reply) .ok

/-- What is spoken of the answer to a question, and the world in which it is, if it comes to
that. -/
def spoken? (s : Service σ) (r : Request) (w : World σ) : Option (String × World σ) :=
  match s.accepted? r with
  | none => none
  | some question =>
    match s.composed r question w with
    | (.error _, _) => none
    | (.ok a, w₁) => if r.playAudio then some (a.spoken, withAnswer r a w₁) else none

/-- The places found for what is spoken, and the report of the pieces from there, if it comes to
that. -/
def assembly? (s : Service σ) (r : Request) (w : World σ) : Option (List String × Report) :=
  (s.spoken? r w).bind fun x =>
    (s.recorder.report? x.1 r.language x.2).map fun report =>
      ((s.recorder.resolved x.1 r.language x.2).1.locations, report)

/-! ### One question -/

/-- What is counted of a question. -/
structure Counted (s : Service σ) (r : Request) (w : World σ) (result : Except Fault Reply)
    (added : List Counter) : Prop where
  /-- The question is counted once, by how it ended. -/
  verdict : ∃ v, added.filterMap Counter.verdict? = [v] ∧ Judged s r w result v
  /-- An answer counts the outcome of its summary. -/
  summary : added.filterMap Counter.summary? =
    (result.toOption.map fun reply => reply.summaryStage.label).toList
  /-- An answer counts the outcome of its audio. -/
  audio : added.filterMap Counter.audio? =
    (result.toOption.map fun reply => reply.audioStage.label).toList
  /-- Without a report no piece is counted. -/
  unreported : s.assembly? r w = none → added.filterMap Counter.piece? = []
  /-- The pieces that are counted are those of the report, one for each place. -/
  reported : ∀ locations report, s.assembly? r w = some (locations, report) →
    (added.filterMap Counter.piece?).length = locations.length ∧
      (added.filterMap Counter.piece?).count .written = report.written.length ∧
      (added.filterMap Counter.piece?).count .rejected = report.missing.countP (·.rejected) ∧
      (added.filterMap Counter.piece?).count .failed = report.missing.countP (!·.rejected)
  /-- The pieces that are counted are those of the artifact that is returned. -/
  artifact : ∀ reply a, result = .ok reply → reply.audioStage = .completed a →
    (added.filterMap Counter.piece?).count .written = a.written ∧
      (added.filterMap Counter.piece?).count .failed +
        (added.filterMap Counter.piece?).count .rejected = a.missing

variable {s : Service σ} {r : Request} {w : World σ}

theorem counters_composed (s : Service σ) (r : Request) (question : String) (w : World σ) :
    (s.composed r question w).2.counters = w.counters := by
  have hadds := Answer.adds_compose s.provider s.summaryTemperature (s.optionsFor r)
    (w.sessions.window (Session.resolve r.session) s.window) question
  refine hadds.keeps_picked (fun e he => ?_) (withQuestion r question w)
  cases e with
  | counted c => cases he
  | _ => rfl

/-- Delivering an answer counts its summary, what its audio does, the audio, and the question. -/
theorem counters_deliver (s : Service σ) (r : Request) (a : Answer) (origin : Origin)
    (w : World σ) :
    (withAnswer r a w).counters = w.counters ++ [.simplified a.stage.label] ∧
      (StateT.run (s.deliver r (Session.resolve r.session) a origin) w).2.counters =
        (StateT.run (s.voice r a origin) (withAnswer r a w)).2.counters ++
          [.voiced (StateT.run (s.voice r a origin) (withAnswer r a w)).1.label, .asked .ok] := by
  rw [run_deliver_eq]
  simp only [World.counters, trail_withAnswer, List.filterMap_append, List.append_assoc]
  exact ⟨rfl, rfl⟩

/-- Audio counts its pieces. -/
theorem counters_voice (s : Service σ) (r : Request) (a : Answer) (origin : Origin) (w : World σ) :
    ∃ pieces, (StateT.run (s.voice r a origin) w).2.counters =
        w.counters ++ pieces.map Counter.piece ∧
      if r.playAudio then
        s.recorder.Counts a.spoken r.language w (StateT.run (s.voice r a origin) w).1 pieces
      else pieces = [] ∧ (StateT.run (s.voice r a origin) w).1 = .skipped := by
  rw [voice]
  split
  · obtain ⟨pieces, hcounts, hcounters⟩ :=
      s.recorder.counts_record a.spoken r.language origin w
    exact ⟨pieces, hcounters, hcounts⟩
  · exact ⟨[], (List.append_nil _).symm, rfl, rfl⟩

/-- A question without an answer counts itself. -/
theorem Counted.of_fault {e : Fault} {v : Verdict} (hjudged : Judged s r w (.error e) v)
    (hspoken : s.spoken? r w = none) : Counted s r w (.error e) [.asked v] := by
  have hassembly : s.assembly? r w = none := by rw [assembly?, hspoken]; rfl
  refine ⟨⟨v, rfl, hjudged⟩, rfl, rfl, fun _ => rfl, fun locations report h => ?_, ?_⟩
  · cases hassembly.symm.trans h
  · intro reply a h
    cases h

/-- The audio of an answer is assembled if it is asked for, and if it comes to a report. -/
theorem assembly?_of_composed {question : String} {a : Answer} {w₁ : World σ}
    (haccepted : s.accepted? r = some question)
    (hcomposed : s.composed r question w = (.ok a, w₁)) :
    s.assembly? r w =
      if r.playAudio then
        (s.recorder.report? a.spoken r.language (withAnswer r a w₁)).map fun report =>
          ((s.recorder.resolved a.spoken r.language (withAnswer r a w₁)).1.locations, report)
      else none := by
  rw [assembly?, spoken?, haccepted]
  simp only [hcomposed]
  split <;> rfl

/-- An answer counts its summary, its pieces, its audio and itself. -/
theorem Counted.of_reply {question : String} {a : Answer} {w₁ : World σ}
    {audio : Outcome Artifact} {pieces : List PieceResult}
    (haccepted : s.accepted? r = some question)
    (hcomposed : s.composed r question w = (.ok a, w₁))
    (hvoice : if r.playAudio then
        s.recorder.Counts a.spoken r.language (withAnswer r a w₁) audio pieces
      else pieces = [] ∧ audio = .skipped) :
    Counted s r w (.ok (replyOf (Session.resolve r.session) a audio))
      (.simplified a.stage.label :: (pieces.map .piece ++ [.voiced audio.label, .asked .ok])) := by
  have hjudged : Judged s r w (.ok (replyOf (Session.resolve r.session) a audio)) .ok := by
    obtain ⟨c, hprimary, htext⟩ := exists_primary hcomposed
    exact .answered haccepted hprimary htext
  have hpieces : (Counter.simplified a.stage.label :: (pieces.map .piece ++
      [.voiced audio.label, .asked .ok])).filterMap Counter.piece? = pieces := by
    rw [List.filterMap_cons_none rfl, List.filterMap_append, Counter.filterMap_piece?]
    exact List.append_nil _
  have hassembly := assembly?_of_composed haccepted hcomposed
  refine ⟨⟨.ok, Counter.filterMap_answered (fun _ => rfl) _ _ _, hjudged⟩,
    Counter.filterMap_answered (fun _ => rfl) _ _ _,
    Counter.filterMap_answered (fun _ => rfl) _ _ _, ?unreported, ?reported, ?artifact⟩
  all_goals rw [hpieces]
  case unreported =>
    intro hnone
    rw [hassembly] at hnone
    split at hvoice
    next hwanted =>
      rw [if_pos hwanted] at hnone
      exact (hvoice.unreported (Option.map_eq_none_iff.mp hnone)).1
    next => exact hvoice.1
  case reported =>
    intro locations report hreport
    rw [hassembly] at hreport
    split at hvoice
    next hwanted =>
      rw [if_pos hwanted] at hreport
      obtain ⟨report', hreport', hpair⟩ := Option.map_eq_some_iff.mp hreport
      obtain ⟨rfl, rfl⟩ := Prod.mk.inj hpair
      obtain ⟨htallied, hlength, -⟩ := hvoice.reported report' hreport'
      exact ⟨hlength, htallied.written_eq, htallied.rejected_eq, htallied.failed_eq⟩
    next hwanted =>
      rw [if_neg hwanted] at hreport
      cases hreport
  case artifact =>
    intro reply artifact hreply hartifact
    obtain rfl := Except.ok.inj hreply
    obtain rfl : audio = .completed artifact := hartifact
    split at hvoice
    next => exact hvoice.of_artifact
    next => cases hvoice.2

/-- Whatever comes of a question, this is what is counted of it. -/
theorem exists_counted (s : Service σ) (r : Request) (origin : Origin) (w : World σ) :
    ∃ added, Counted s r w (StateT.run (s.ask r origin) w).1 added ∧
      (StateT.run (s.ask r origin) w).2.counters = w.counters ++ added := by
  cases hconfigured : s.provider.isConfigured with
  | false =>
    have haccepted : s.accepted? r = none := by rw [accepted?, hconfigured]; rfl
    rw [ask, hconfigured]
    refine ⟨_, .of_fault (.unconfigured hconfigured) ?_, World.counters_count _ w⟩
    rw [spoken?, haccepted]
  | true =>
    cases haccepted : s.accepted? r with
    | none =>
      have hquestion := haccepted
      rw [accepted?, if_pos hconfigured] at hquestion
      rw [ask, hconfigured, hquestion]
      refine ⟨_, .of_fault (.invalid hconfigured ?_) ?_, World.counters_count _ w⟩
      · intro question hasked
        rw [hasked] at hquestion
        simpa [Option.filter] using hquestion
      · rw [spoken?, haccepted]
    | some question =>
      have hcounters := s.counters_composed r question w
      rw [ask_accepted haccepted, run_answerIn]
      cases hcomposed : s.composed r question w with
      | mk x w₁ =>
        rw [hcomposed] at hcounters
        dsimp only at hcounters ⊢
        cases x with
        | error e =>
          have hjudged : Judged s r w (.error e) .providerError :=
            .failed haccepted (primary_eq_error hcomposed)
          refine ⟨_, .of_fault hjudged ?_, ?_⟩
          · rw [spoken?, haccepted]
            simp only [hcomposed]
          · rw [← hcounters]
            exact World.counters_count _ w₁
        | ok a =>
          obtain ⟨hanswer, hdeliver⟩ := s.counters_deliver r a origin w₁
          obtain ⟨pieces, hpieces, hvoice⟩ := s.counters_voice r a origin (withAnswer r a w₁)
          refine ⟨_, .of_reply haccepted hcomposed hvoice, ?_⟩
          dsimp only
          rw [hdeliver, hpieces, hanswer, hcounters, List.append_assoc, List.append_assoc]
          rfl

/-! ### All calls -/

/-- The counters that go up with a call. -/
def counted (s : Service σ) (x : Entry σ) : List Counter :=
  (s.made x).counters.drop x.before.counters.length

/-- What is counted of a call. -/
structure Counts (s : Service σ) (x : Entry σ) : Prop where
  /-- The counters go up from where they were. -/
  counters : (s.made x).counters = x.before.counters ++ s.counted x
  /-- A question counts what comes of it. -/
  question : ∀ r origin, x.step = .ask r origin →
    ∃ result, x.result = .asked result ∧ Counted s r x.before result (s.counted x)
  /-- No other call counts anything. -/
  other : (∀ r origin, x.step ≠ .ask r origin) → s.counted x = []

theorem counted_of_added {x : Entry σ} {added : List Counter}
    (h : (s.made x).counters = x.before.counters ++ added) : s.counted x = added := by
  rw [counted, h, List.drop_left]

/-- A call that is no question and leaves the counters as they are. -/
theorem Counts.of_silent {x : Entry σ} (hstep : ∀ r origin, x.step ≠ .ask r origin)
    (h : (s.made x).counters = x.before.counters) : s.Counts x := by
  have hadded : s.counted x = [] := counted_of_added (h.trans (List.append_nil _).symm)
  refine ⟨?_, fun r origin hask => absurd hask (hstep r origin), fun _ => hadded⟩
  rw [hadded, List.append_nil]
  exact h

theorem counts_perform (s : Service σ) (step : Step) (w : World σ) :
    s.Counts ⟨w, step, (StateT.run (s.perform step) w).1⟩ := by
  cases step with
  | ask r origin =>
    obtain ⟨added, hcounted, hcounters⟩ := exists_counted s r origin w
    have hadded : ∀ result, s.counted ⟨w, .ask r origin, result⟩ = added :=
      fun _ => counted_of_added hcounters
    refine ⟨?_, fun r' origin' hstep => ?_, fun h => absurd rfl (h r origin)⟩
    · rw [hadded]
      exact hcounters
    · obtain ⟨rfl, rfl⟩ := Step.ask.inj hstep
      rw [hadded]
      exact ⟨_, rfl, hcounted⟩
  | history session => exact .of_silent (fun r origin h => by cases h) rfl
  | forget session => exact .of_silent (fun r origin h => by cases h) rfl

/-- What is counted in a run that a log tells: what its calls count, one after another. -/
structure Metered (s : Service σ) (log : List (Entry σ)) (w w' : World σ) : Prop where
  calls : ∀ x ∈ log, s.Counts x
  counters : w'.counters = w.counters ++ log.flatMap s.counted

end Ask.Service

end Tutor
