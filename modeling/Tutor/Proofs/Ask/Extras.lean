import Tutor.Proofs.Answer.Simplified
import Tutor.Proofs.Ask.Artifacts
import Tutor.Proofs.Ask.Isolation
import Tutor.Proofs.Speech.Recording

/-!
# The extras of an answer

A stage is skipped exactly if it was not asked for. What is spoken of an answer says something,
whatever the language model said: completions are trimmed, an empty one is replaced, and a summary
is there only if it says something. So the audio that is asked for is never skipped for want of a
text.

* `adds_compose` – what composing an answer leaves in the trail.
* `Composed`, `composed_of_ok` – an answer before its audio.
* `run_deliver_eq`, `filterMap_deliver` – what delivering it adds.
* `Extras`, `extras_ask` – the extras of every reply.
-/

namespace Tutor

open Tutor.Text

variable {σ : Type}

/-! ### What composing an answer leaves in the trail -/

/-- Whether an event can come from composing an answer. -/
def Event.ofComposing : Event → Bool
  | .called _ => true
  | .sent _ => true
  | _ => false

theorem Provider.adds_ask (p : Provider σ) (c : Call) : Run.Adds Event.ofComposing (p.ask c) :=
  .bind (.record rfl) fun _ => .errand _ fun _ => rfl

theorem Answer.adds_compose (p : Provider σ) (cool : Number.Single) (o : Options)
    (before : List Session.Turn) (question : String) :
    Run.Adds Event.ofComposing (compose p cool o before question) := by
  have hprimary : Run.Adds Event.ofComposing (primary p o before question) := by
    refine .bind (p.adds_ask _) fun x => ?_
    cases x with
    | ok c => exact .pure _
    | error e => exact .pure _
  have hfollowUp : ∀ text, Run.Adds Event.ofComposing (followUp p cool o text) := by
    intro text
    rw [followUp]
    split
    · exact .pure _
    · refine .bind (p.adds_ask _) fun x => ?_
      cases x with
      | ok c => exact .pure _
      | error e => exact .pure _
  refine .bind hprimary fun x => ?_
  cases x with
  | error e => exact .pure _
  | ok text => exact .bind (hfollowUp text) fun _ => .pure _

/-! ### Answers before their audio -/

namespace Answer

/-- The text of an answer says something, even if the language model does not. -/
theorem filled_textOf (c : Tutor.Reply) : Filled (textOf c) := by
  rw [textOf]
  split
  next hempty =>
    have htrimmed : trim noAnswer.toList = noAnswer.toList := by decide
    exact ⟨by decide, htrimmed ▸ isTrimmed_trim _⟩
  next hne =>
    refine ⟨by simpa using hne, ?_⟩
    rw [Tutor.Reply.text, trimmed, String.toList_ofList]
    exact isTrimmed_trim _

/-- What holds of an answer before its audio, where a summary was wanted or not. -/
structure Composed (a : Answer) (wanted : Bool) : Prop where
  skipped : a.stage = .skipped ↔ wanted = false
  absent : a.stage ≠ .completed () → a.summary = none ∧ a.illustration = none
  filled : Filled a.spoken

theorem composed_unsummarised {text : String} (h : Filled text) :
    Composed { text, stage := .skipped } false :=
  ⟨⟨fun _ => rfl, fun _ => rfl⟩, fun _ => ⟨rfl, rfl⟩, h⟩

theorem composed_summarised {text : String} (h : Filled text) (x : Except Fault Tutor.Reply) :
    Composed (summarised text x) true := by
  cases x with
  | error e =>
    exact ⟨by simp [summarised], fun _ => ⟨rfl, rfl⟩, h⟩
  | ok c =>
    refine ⟨by simp [summarised], fun hstage => absurd rfl hstage, ?_⟩
    · -- A summary that was found says something, and without one it is the text that is spoken.
      simp only [summarised, spoken]
      cases hsummary : (Simplified.ofText c.text).summary with
      | none => exact h
      | some summary =>
        refine filled_of_mem_parts c.text summary (List.mem_append_left _ ?_)
        rw [hsummary]
        exact List.mem_singleton_self _

end Answer

namespace Ask.Service

variable [Outside σ] {s : Service σ} {r : Request} {w w' : World σ} {reply : Reply}

theorem composed_of_ok {question : String} {a : Answer}
    (h : (s.composed r question w).1 = .ok a) : a.Composed r.simplify := by
  rw [value_composed] at h
  cases hprimary : s.primary r question w with
  | error e =>
    rw [hprimary] at h
    cases h
  | ok c =>
    rw [hprimary] at h
    obtain rfl := Except.ok.inj h
    have htext := Answer.filled_textOf c
    dsimp only
    generalize Answer.textOf c = text at htext ⊢
    cases r.simplify with
    | false => exact Answer.composed_unsummarised htext
    | true => exact Answer.composed_summarised htext _

theorem utterances_composed (s : Service σ) (r : Request) (question : String) (w : World σ) :
    (s.composed r question w).2.utterances = w.utterances := by
  have hadds := Answer.adds_compose s.provider s.summaryTemperature (s.optionsFor r)
    (w.sessions.window (Session.resolve r.session) s.window) question
  refine hadds.keeps_picked (fun e he => ?_) (withQuestion r question w)
  cases e with
  | spoken u => cases he
  | _ => rfl

/-! ### Delivering an answer -/

/-- Delivering an answer is its audio, once the answer is kept, and two counters. -/
theorem run_deliver_eq (s : Service σ) (r : Request) (a : Answer) (origin : Speech.Origin)
    (w : World σ) :
    StateT.run (s.deliver r (Session.resolve r.session) a origin) w =
      (replyOf (Session.resolve r.session) a (StateT.run (s.voice r a origin) (withAnswer r a w)).1,
        { (StateT.run (s.voice r a origin) (withAnswer r a w)).2 with
          trail := ((StateT.run (s.voice r a origin) (withAnswer r a w)).2.trail ++
            [.counted (.voiced (StateT.run (s.voice r a origin) (withAnswer r a w)).1.label)]) ++
            [.counted (.asked .ok)] }) := rfl

theorem trail_withAnswer (r : Request) (a : Answer) (w : World σ) :
    (withAnswer r a w).trail = w.trail ++ [.counted (.simplified a.stage.label)] :=
  List.append_nil _

/-- What is picked from the trail, counters aside, is what the audio adds to it. -/
theorem filterMap_deliver {γ : Type} (pick : Event → Option γ)
    (hpick : ∀ c, pick (.counted c) = none) (s : Service σ) (r : Request) (a : Answer)
    (origin : Speech.Origin) (w : World σ) :
    (StateT.run (s.deliver r (Session.resolve r.session) a origin) w).2.trail.filterMap pick =
        (StateT.run (s.voice r a origin) (withAnswer r a w)).2.trail.filterMap pick ∧
      (withAnswer r a w).trail.filterMap pick = w.trail.filterMap pick := by
  rw [run_deliver_eq, trail_withAnswer]
  simp [List.filterMap_append, hpick]

/-- A reply is one that was delivered, with the answer that was composed for an accepted
question. -/
theorem exists_composed {origin : Speech.Origin}
    (h : (StateT.run (s.ask r origin) w).1 = .ok reply) :
    ∃ question a w₁, s.accepted? r = some question ∧ s.composed r question w = (.ok a, w₁) ∧
      reply = replyOf (Session.resolve r.session) a
        (StateT.run (s.voice r a origin) (withAnswer r a w₁)).1 ∧
      (StateT.run (s.ask r origin) w).2 =
        (StateT.run (s.deliver r (Session.resolve r.session) a origin) w₁).2 := by
  cases haccepted : s.accepted? r with
  | none =>
    rw [ask_refused haccepted] at h
    cases h
  | some question =>
    rw [ask_accepted haccepted, run_answerIn] at h ⊢
    cases hcomposed : s.composed r question w with
    | mk x w₁ =>
      rw [hcomposed] at h
      cases x with
      | error e => cases h
      | ok a => exact ⟨question, a, w₁, rfl, hcomposed, (Except.ok.inj h).symm, rfl⟩

/-! ### The extras of a reply -/

/-- What the extras of a reply are. -/
structure Extras (s : Service σ) (r : Request) (w : World σ) (reply : Reply) (w' : World σ) :
    Prop where
  summary_skipped : reply.summaryStage = .skipped ↔ r.simplify = false
  summary_absent : reply.summaryStage ≠ .completed () →
    reply.summary = none ∧ reply.illustration = none
  audio_skipped : reply.audioStage = .skipped ↔ r.playAudio = false
  /-- What there is to speak is not blank. -/
  not_blank : isBlankText (reply.summary.getD reply.text) = false
  /-- Without audio, nobody is asked for any: once the answer is composed, only the clock is
  read. -/
  silent : r.playAudio = false → w'.utterances = w.utterances ∧ w'.disk = w.disk ∧
    ∃ question, s.accepted? r = some question ∧
      w'.requests = (s.composed r question w).2.requests ∧
      w'.outside = (Outside.now (s.composed r question w).2.outside).2
  /-- With audio, the synthesizer is first asked for all of the summary, or of the answer where
  there is none. -/
  spoken : r.playAudio = true → ∃ more, w'.utterances = w.utterances ++
    .whole (reply.summary.getD reply.text) (Speech.languageCode r.language) :: more
  /-- The reply refers to the audio that was made, and to none if none was. -/
  audio : ∀ url, reply.audio = some url ↔ ∃ a, reply.audioStage = .completed a ∧ a.url = url

theorem voice_eq_skipped_iff (s : Service σ) (r : Request) {a : Answer}
    (ha : isBlankText a.spoken = false) (origin : Speech.Origin) (w : World σ) :
    (StateT.run (s.voice r a origin) w).1 = .skipped ↔ r.playAudio = false := by
  rw [voice]
  cases r.playAudio with
  | false => exact iff_of_true rfl rfl
  | true =>
    rw [if_pos rfl, s.recorder.record_eq_skipped_iff, ha]
    simp

theorem utterances_voice {a : Answer} (ha : isBlankText a.spoken = false)
    (hwanted : r.playAudio = true) (origin : Speech.Origin) (w : World σ) :
    ∃ more, (StateT.run (s.voice r a origin) w).2.utterances =
      w.utterances ++ .whole a.spoken (Speech.languageCode r.language) :: more := by
  rw [voice, if_pos hwanted, s.recorder.utterances_record, ha, if_neg Bool.false_ne_true,
    s.recorder.synthesizer.utterances_resolve]
  exact ⟨_, rfl⟩

/-- Whatever the language model, the synthesizer and the network do, the extras of a reply are what
was asked for. -/
theorem extras_ask {origin : Speech.Origin} (h : (StateT.run (s.ask r origin) w).1 = .ok reply) :
    Extras s r w reply (StateT.run (s.ask r origin) w).2 := by
  obtain ⟨question, a, w₁, haccepted, hcomposed, rfl, hworld⟩ := exists_composed h
  have ha : a.Composed r.simplify := composed_of_ok (by rw [hcomposed])
  have hblank : isBlankText a.spoken = false := ha.filled.isBlankText
  have hutterances : w₁.utterances = w.utterances := by
    rw [← s.utterances_composed r question w, hcomposed]
  have hdisk : w₁.disk = w.disk := by
    have hkeeps := Answer.keeps_compose World.inner_disk s.provider s.summaryTemperature
      (s.optionsFor r) (w.sessions.window (Session.resolve r.session) s.window) question
      (withQuestion r question w)
    rw [← composed, hcomposed] at hkeeps
    exact hkeeps
  obtain ⟨hspoken, hspoken'⟩ :=
    filterMap_deliver Event.utterance? (fun c => rfl) s r a origin w₁
  obtain ⟨hsent, hsent'⟩ :=
    filterMap_deliver Event.request? (fun c => rfl) s r a origin w₁
  rw [hworld]
  refine ⟨ha.skipped, ha.absent, s.voice_eq_skipped_iff r hblank origin _, hblank, ?_, ?_, ?_⟩
  · intro hunwanted
    have hvoice : StateT.run (s.voice r a origin) (withAnswer r a w₁) =
        (.skipped, withAnswer r a w₁) := by
      rw [voice, hunwanted]
      rfl
    rw [hvoice] at hspoken hsent
    refine ⟨(hspoken.trans hspoken').trans hutterances, ?_, question, haccepted, ?_, ?_⟩
    · rw [run_deliver_eq, hvoice]
      exact hdisk
    · rw [hcomposed]
      exact hsent.trans hsent'
    · rw [run_deliver_eq, hvoice, hcomposed]
      rfl
  · intro hwanted
    obtain ⟨more, hmore⟩ := utterances_voice (s := s) hblank hwanted origin (withAnswer r a w₁)
    refine ⟨more, hspoken.trans (hmore.trans ?_)⟩
    rw [World.utterances, hspoken', ← World.utterances, hutterances]
    rfl
  · intro url
    generalize (StateT.run (s.voice r a origin) (withAnswer r a w₁)).1 = audio
    cases audio with
    | completed artifact => simp [replyOf, Outcome.value?]
    | degraded why => simp [replyOf, Outcome.value?]
    | skipped => simp [replyOf, Outcome.value?]

/-- The language model answers with a summary, and the synthesizer finds no place for it. -/
theorem extras_of_unheard_summary :
    let said : Tutor.Reply := ⟨⟨.assistant, " Because.\n\nSo. "⟩, none⟩
    let steady : Provider Replay := { isConfigured := true, complete := fun _ => pure (.ok said) }
    let mute : Speech.Synthesizer Replay :=
      ⟨fun _ _ => pure (.ok []), fun _ _ => pure (.error (.speech "mute"))⟩
    let s : Service Replay := .around {} steady mute
    let r : Request := { question := some "Why?" }
    let w : World Replay := { outside := ⟨[.time ⟨1, 0⟩, .time ⟨2, 0⟩], none⟩ }
    ∃ reply, (StateT.run (s.ask r {}) w).1 = .ok reply ∧
      Extras s r w reply (StateT.run (s.ask r {}) w).2 := by
  intro said steady mute s r w
  have haccepted : s.accepted? r = some "Why?" := by decide
  obtain ⟨reply, hreply⟩ := (ask_eq_ok_iff s r {} w).mpr ⟨"Why?", haccepted, said, rfl⟩
  exact ⟨reply, hreply, extras_ask hreply⟩

end Ask.Service

end Tutor
