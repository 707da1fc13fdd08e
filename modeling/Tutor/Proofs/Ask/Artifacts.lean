import Tutor.Proofs.Ask.Stages
import Tutor.Proofs.Speech.Shelf
import Tutor.World.Replay

/-!
# The artifacts of a service

Each answer that is spoken leaves a file of its own on the shelf, and everything else that is asked
of a service leaves no file at all. This takes names that are new: a recording first removes what
stands under its name.

* `named?`, `Fresh` – the names that questions take for their artifacts.
* `shelved_perform` – what one call makes of the files.
* `Keeping`, `keeping_after` – what holds of the files after calls.
* `Archived`, `archived_after` – the files on the shelf are those of the answers.
-/

namespace Tutor.Ask

open Tutor.Text

variable {σ : Type}

/-- The artifact of a call, if its answer was spoken. -/
def Entry.artifact? (x : Entry σ) : Option Speech.Artifact :=
  match x.result with
  | .asked (.ok reply) => reply.audioStage.value?
  | _ => none

namespace Service

variable [Outside σ]

/-! ### One call -/

/-- The world once an answer is kept, when nothing is left to do but its audio. -/
def withAnswer (r : Request) (a : Answer) (w : World σ) : World σ :=
  (StateT.run (do
    Run.count (.simplified a.stage.label)
    keep (Session.resolve r.session) .assistant a.text) w).2

/-- The name that a call takes for an artifact, if it comes to that. -/
def named? (s : Service σ) (x : Entry σ) : Option String :=
  match x.step with
  | .ask r _ =>
    match s.accepted? r with
    | none => none
    | some question =>
      match s.composed r question x.before with
      | (.error _, _) => none
      | (.ok a, w) =>
        if r.playAudio then s.recorder.named? a.spoken r.language (withAnswer r a w) else none
  | _ => none

/-- The world after a call. -/
def made (s : Service σ) (x : Entry σ) : World σ := (StateT.run (s.perform x.step) x.before).2

/-- The folder of the artifacts. -/
def shelf (s : Service σ) (w : World σ) : Place := s.recorder.shelf w.disk

variable {s : Service σ} {steps : List Step} {w : World σ}

/-- Delivering an answer leaves the files to its audio. -/
theorem disk_deliver (s : Service σ) (r : Request) (a : Answer) (origin : Speech.Origin)
    (w : World σ) :
    (StateT.run (s.deliver r (Session.resolve r.session) a origin) w).1.audioStage =
        (StateT.run (s.voice r a origin) (withAnswer r a w)).1 ∧
      (StateT.run (s.deliver r (Session.resolve r.session) a origin) w).2.disk =
        (StateT.run (s.voice r a origin) (withAnswer r a w)).2.disk := ⟨rfl, rfl⟩

/-- What one call makes of the files, if the name that it takes is new. -/
theorem shelved_perform (hs : s.recorder.Tidy) (step : Step) (w : World σ) {x : Entry σ}
    (hx : x = ⟨w, step, (StateT.run (s.perform step) w).1⟩)
    (hnone : ∀ name, s.named? x = some name → w.disk.file? (s.shelf w ++ [name]) = none) :
    Speech.Shelved (s.shelf w) (s.named? x) w.disk x.artifact? (s.made x).disk := by
  subst hx
  cases step with
  | history session => exact .nothing (.refl _)
  | forget session => exact .nothing (.refl _)
  | ask r origin =>
    dsimp only [named?, made] at hnone ⊢
    rw [run_perform_ask]
    cases haccepted : s.accepted? r with
    | none =>
      obtain ⟨e, verdict, hrun⟩ := run_ask_refused haccepted origin w
      rw [hrun]
      exact .nothing (.refl _)
    | some question =>
      have hdisk : (s.composed r question w).2.disk = w.disk :=
        Answer.keeps_compose World.inner_disk s.provider s.summaryTemperature (s.optionsFor r) _
          question _
      rw [haccepted] at hnone
      rw [ask_accepted haccepted, run_answerIn]
      dsimp only at hnone ⊢
      generalize s.composed r question w = y at hdisk hnone ⊢
      obtain ⟨x, w₁⟩ := y
      cases x with
      | error e => exact .nothing (.of_eq hdisk)
      | ok a =>
        have hanswer : (withAnswer r a w₁).disk = w.disk := hdisk
        obtain ⟨hstage, hafter⟩ := s.disk_deliver r a origin w₁
        dsimp only [Entry.artifact?] at hnone ⊢
        rw [hstage, hafter, shelf, ← hanswer, voice]
        rw [shelf, ← hanswer] at hnone
        split
        · next hwanted =>
          rw [if_pos hwanted] at hnone
          exact Speech.Recorder.shelved_record hs origin hnone
        · exact .nothing (.refl _)

/-! ### All calls -/

/-- The names that calls take are new, each to the others and to the files that were there. -/
structure Fresh (s : Service σ) (log : List (Entry σ)) (w : World σ) : Prop where
  distinct : (log.filterMap s.named?).Nodup
  new : ∀ name ∈ log.filterMap s.named?, w.disk.file? (s.shelf w ++ [name]) = none

theorem Fresh.of_prefix {earlier log : List (Entry σ)} (h : Fresh s log w)
    (hearlier : earlier <+: log) : Fresh s earlier w where
  distinct := h.distinct.sublist (hearlier.sublist.filterMap _)
  new name hname := h.new name ((hearlier.sublist.filterMap _).subset hname)

/-- What holds of the files after calls that a log tells. -/
structure Keeping (s : Service σ) (log : List (Entry σ)) (w w' : World σ) : Prop where
  here : w'.disk.here = w.disk.here
  /-- Every artifact has the name that its call took, and is there as the call left it. -/
  artifact : ∀ x ∈ log, ∀ a, x.artifact? = some a → s.named? x = some a.name ∧
    ∃ bytes, bytes.length = a.bytes ∧ s.shelf x.before = s.shelf w ∧
      (s.made x).disk.file? (s.shelf w ++ [a.name]) = some bytes ∧
      w'.disk.file? (s.shelf w ++ [a.name]) = some bytes
  /-- A call without an artifact leaves the files alone. -/
  nothing : ∀ x ∈ log, x.artifact? = none → x.before.disk.SameFiles (s.made x).disk
  /-- All other files are those that were there. -/
  other : ∀ q, (∀ x ∈ log, ∀ a, x.artifact? = some a → q ≠ s.shelf w ++ [a.name]) →
    w'.disk.file? q = w.disk.file? q

theorem Keeping.shelf {log : List (Entry σ)} {w' : World σ} (h : Keeping s log w w') :
    s.shelf w' = s.shelf w := Disk.placeOf_congr h.here _

/-- One call more. Its artifact, if there is one, has the name of no other. -/
theorem Keeping.concat {log : List (Entry σ)} {w₁ : World σ} {x : Entry σ}
    (h : Keeping s log w w₁) (hbefore : x.before = w₁)
    (hshelved : Speech.Shelved (s.shelf w) (s.named? x) w₁.disk x.artifact? (s.made x).disk)
    (hother : ∀ name, s.named? x = some name → ∀ y ∈ log, ∀ a, y.artifact? = some a →
      a.name ≠ name) : Keeping s (log ++ [x]) w (s.made x) := by
  generalize hartifact : x.artifact? = artifact, hdisk : (s.made x).disk = d at hshelved
  cases hshelved with
  | nothing hsame =>
    refine ⟨hdisk ▸ hsame.here.trans h.here, fun y hy a ha => ?_, fun y hy hnone => ?_,
      fun q hq => ?_⟩
    · rcases List.mem_append.mp hy with hy | hy
      · obtain ⟨hname, bytes, hlength, hshelf, hfile, hstill⟩ := h.artifact y hy a ha
        rw [hdisk, hsame.file?]
        exact ⟨hname, bytes, hlength, hshelf, hfile, hstill⟩
      · rw [List.mem_singleton.mp hy, hartifact] at ha
        cases ha
    · rcases List.mem_append.mp hy with hy | hy
      · exact h.nothing y hy hnone
      · rw [List.mem_singleton.mp hy, hbefore, hdisk]
        exact hsame
    · rw [hdisk, hsame.file?]
      exact h.other q fun y hy => hq y (List.mem_append_left _ hy)
  | @artifact _ a bytes hname hfile hlength hhere helsewhere =>
    refine ⟨hdisk ▸ hhere.trans h.here, fun y hy b hb => ?_, fun y hy hnone => ?_, fun q hq => ?_⟩
    · rcases List.mem_append.mp hy with hy | hy
      · obtain ⟨hname', bytes', hlength', hshelf, hfile', hstill⟩ := h.artifact y hy b hb
        have hne : s.shelf w ++ [b.name] ≠ s.shelf w ++ [a.name] := fun heq =>
          hother a.name hname y hy b hb (List.singleton_inj.mp (List.append_cancel_left heq))
        rw [hdisk, helsewhere _ hne]
        exact ⟨hname', bytes', hlength', hshelf, hfile', hstill⟩
      · obtain rfl := List.mem_singleton.mp hy
        obtain rfl := Option.some.inj (hartifact.symm.trans hb)
        rw [hdisk, hbefore]
        exact ⟨hname, bytes, hlength, h.shelf, hfile, hfile⟩
    · rcases List.mem_append.mp hy with hy | hy
      · exact h.nothing y hy hnone
      · rw [List.mem_singleton.mp hy, hartifact] at hnone
        cases hnone
    · rw [hdisk, helsewhere q (hq x (List.mem_append_right _ (List.mem_singleton_self _)) a
        hartifact)]
      exact h.other q fun y hy => hq y (List.mem_append_left _ hy)

theorem keeping_after (hs : s.recorder.Tidy) (steps : List Step) (w : World σ)
    (hfresh : Fresh s (s.log steps w) w) : Keeping s (s.log steps w) w (s.after steps w) := by
  -- By induction on the calls, the last of them first: names stay new to the calls before.
  induction steps using List.reverseRecOn with
  | nil => exact ⟨rfl, by simp [log], by simp [log], fun _ _ => rfl⟩
  | append_singleton steps step ih =>
    rw [log_concat] at hfresh ⊢
    rw [after_concat]
    have hkeeping := ih (hfresh.of_prefix (List.prefix_append _ _))
    generalize hw₁ : s.after steps w = w₁ at hfresh hkeeping ⊢
    generalize hx : (⟨w₁, step, (StateT.run (s.perform step) w₁).1⟩ : Entry σ) = x at hfresh ⊢
    have hmade : s.made x = (StateT.run (s.perform step) w₁).2 := by rw [← hx]; rfl
    rw [← hmade]
    generalize s.log steps w = log at hfresh hkeeping ⊢
    -- The artifacts so far have the names that their calls took, so the name of this call is none
    -- of theirs.
    have hother : ∀ name, s.named? x = some name → ∀ y ∈ log, ∀ a, y.artifact? = some a →
        a.name ≠ name := by
      intro name hname y hy a ha heq
      have hdistinct := hfresh.distinct
      rw [List.filterMap_append, List.nodup_append] at hdistinct
      refine hdistinct.2.2 name (List.mem_filterMap.mpr ⟨y, hy, ?_⟩) name
        (List.mem_filterMap.mpr ⟨x, List.mem_singleton_self _, hname⟩) rfl
      rw [(hkeeping.artifact y hy a ha).1, heq]
    have hnone : ∀ name, s.named? x = some name →
        w₁.disk.file? (s.shelf w₁ ++ [name]) = none := by
      intro name hname
      rw [hkeeping.shelf, hkeeping.other]
      · refine hfresh.new name (List.mem_filterMap.mpr ⟨x, ?_, hname⟩)
        exact List.mem_append_right _ (List.mem_singleton_self _)
      · intro y hy a ha heq
        exact hother name hname y hy a ha (List.singleton_inj.mp (List.append_cancel_left heq)).symm
    have hshelved := shelved_perform hs step w₁ hx.symm hnone
    rw [hkeeping.shelf] at hshelved
    exact hkeeping.concat (by rw [← hx]) hshelved hother

/-! ### The shelf -/

/-- The file that a call leaves on the shelf, as it stands after the call. -/
def archived? (s : Service σ) (x : Entry σ) : Option (Place × List UInt8) :=
  x.artifact?.bind fun a =>
    ((s.made x).disk.file? (s.shelf x.before ++ [a.name])).map fun bytes => ([a.name], bytes)

/-- What is on the shelf after calls that a log tells. -/
structure Archived (s : Service σ) (log : List (Entry σ)) (w w' : World σ) : Prop where
  /-- The files on the shelf are those that were there, and those of the artifacts. -/
  files : (w'.disk.filesBelow (s.shelf w)).Perm
    (w.disk.filesBelow (s.shelf w) ++ log.filterMap s.archived?)
  /-- Each artifact is a file, as long as it says. -/
  artifact : ∀ x ∈ log, ∀ a, x.artifact? = some a →
    ∃ bytes, s.archived? x = some ([a.name], bytes) ∧ bytes.length = a.bytes
  /-- A call without an artifact touches no file, be it that it failed or that its audio did. -/
  nothing : ∀ x ∈ log, x.artifact? = none → x.before.disk.SameFiles (s.made x).disk
  /-- No later call touches an artifact. -/
  lasting : ∀ earlier x later, log = earlier ++ x :: later → ∀ a, x.artifact? = some a →
    ∀ y ∈ later, y.before.disk.file? (s.shelf w ++ [a.name]) =
        (s.made x).disk.file? (s.shelf w ++ [a.name]) ∧
      (s.made y).disk.file? (s.shelf w ++ [a.name]) =
        (s.made x).disk.file? (s.shelf w ++ [a.name])
  /-- No call touches a file that is not on the shelf. -/
  elsewhere : ∀ q, ¬ s.shelf w <+: q → w'.disk.file? q = w.disk.file? q

theorem Keeping.archived?_eq_some_iff {log : List (Entry σ)} {w' : World σ}
    (h : Keeping s log w w') {x : Entry σ} (hx : x ∈ log) {y : Place × List UInt8} :
    s.archived? x = some y ↔ ∃ a, x.artifact? = some a ∧ y.1 = [a.name] ∧
      w'.disk.file? (s.shelf w ++ y.1) = some y.2 := by
  obtain ⟨names, bytes⟩ := y
  rw [archived?]
  cases hartifact : x.artifact? with
  | none => simp
  | some a =>
    obtain ⟨-, bytes', -, hshelf, hfile, hstill⟩ := h.artifact x hx a hartifact
    rw [Option.bind_some, hshelf, hfile]
    constructor
    · intro heq
      obtain ⟨rfl, rfl⟩ := Prod.mk.inj (Option.some.inj heq)
      exact ⟨a, rfl, rfl, hstill⟩
    · rintro ⟨b, hb, hnames, hbytes⟩
      obtain rfl := Option.some.inj hb
      dsimp only at hnames hbytes
      subst hnames
      obtain rfl := Option.some.inj (hstill.symm.trans hbytes)
      rfl

theorem Keeping.nodup {log : List (Entry σ)} {w' : World σ} (h : Keeping s log w w')
    (hfresh : Fresh s log w) : (log.filterMap s.archived?).Nodup := by
  have hdistinct := hfresh.distinct
  rw [List.Nodup, List.pairwise_filterMap] at hdistinct ⊢
  refine hdistinct.imp_of_mem fun {x x'} hx hx' hne y hy y' hy' heq => ?_
  obtain ⟨a, ha, hname, -⟩ := (h.archived?_eq_some_iff hx).mp hy
  obtain ⟨a', ha', hname', -⟩ := (h.archived?_eq_some_iff hx').mp hy'
  refine hne _ (h.artifact x hx a ha).1 _ (h.artifact x' hx' a' ha').1 ?_
  exact List.singleton_inj.mp (hname.symm.trans ((congrArg Prod.fst heq).trans hname'))

/-- The files that were there, and the artifacts. -/
theorem Keeping.files {log : List (Entry σ)} {w' : World σ} (h : Keeping s log w w')
    (hfresh : Fresh s log w) : (w'.disk.filesBelow (s.shelf w)).Perm
      (w.disk.filesBelow (s.shelf w) ++ log.filterMap s.archived?) := by
  have hnew : ∀ x ∈ log, ∀ a, x.artifact? = some a →
      w.disk.file? (s.shelf w ++ [a.name]) = none := fun x hx a ha =>
    hfresh.new a.name (List.mem_filterMap.mpr ⟨x, hx, (h.artifact x hx a ha).1⟩)
  have hdisjoint : ∀ y ∈ w.disk.filesBelow (s.shelf w), ∀ y' ∈ log.filterMap s.archived?,
      y ≠ y' := by
    rintro y hy _ hy' rfl
    obtain ⟨x, hx, hbound⟩ := List.mem_filterMap.mp hy'
    obtain ⟨a, ha, hname, -⟩ := (h.archived?_eq_some_iff hx).mp hbound
    have hold := (Disk.mem_filesBelow.mp hy).2
    rw [hname, hnew x hx a ha] at hold
    cases hold
  refine (List.perm_ext_iff_of_nodup (Disk.nodup_filesBelow _ _)
    (List.nodup_append.mpr ⟨Disk.nodup_filesBelow _ _, h.nodup hfresh, hdisjoint⟩)).mpr ?_
  rintro ⟨names, bytes⟩
  rw [List.mem_append, List.mem_filterMap, Disk.mem_filesBelow, Disk.mem_filesBelow]
  -- A file has the name of an artifact, which is then all that there is under it, or nothing was
  -- done to it.
  by_cases hartifact : ∃ x ∈ log, ∃ a, x.artifact? = some a ∧ names = [a.name]
  · obtain ⟨x, hx, a, ha, rfl⟩ := hartifact
    constructor
    · rintro ⟨-, hbytes⟩
      exact .inr ⟨x, hx, (h.archived?_eq_some_iff hx).mpr ⟨a, ha, rfl, hbytes⟩⟩
    · rintro (⟨-, hold⟩ | ⟨x', hx', hleft⟩)
      · rw [hnew x hx a ha] at hold
        cases hold
      · obtain ⟨-, -, -, hbytes⟩ := (h.archived?_eq_some_iff hx').mp hleft
        exact ⟨List.cons_ne_nil _ _, hbytes⟩
  · rw [h.other _ fun x hx a ha heq => hartifact ⟨x, hx, a, ha, List.append_cancel_left heq⟩]
    constructor
    · exact .inl
    · rintro (hold | ⟨x, hx, hleft⟩)
      · exact hold
      · obtain ⟨a, ha, hnames, -⟩ := (h.archived?_eq_some_iff hx).mp hleft
        exact absurd ⟨x, hx, a, ha, hnames⟩ hartifact

/-- The calls up to one, which lead to the world that it leaves. -/
theorem exists_steps_through {earlier later : List (Entry σ)} {x : Entry σ}
    (h : s.log steps w = earlier ++ x :: later) :
    ∃ before, s.log before w = earlier ++ [x] ∧ s.after before w = s.made x := by
  obtain ⟨before, hearlier, hbefore⟩ := exists_steps_of_log h
  have hresult : x.result = (StateT.run (s.perform x.step) x.before).1 :=
    result_of_mem_log (h ▸ List.mem_append_right _ List.mem_cons_self)
  refine ⟨before ++ [x.step], ?_, ?_⟩
  · rw [log_concat, ← hearlier, ← hbefore, ← hresult]
  · rw [after_concat, ← hbefore]
    rfl

/-- Whatever is asked of a service, whatever the synthesizer and the language model do, and whatever
lies outside: if the names that are taken are new and hold no slash, the shelf holds what was there
and the artifacts of the answers, each as its call left it. -/
theorem archived_after (hs : s.recorder.Tidy) (steps : List Step) (w : World σ)
    (hfresh : Fresh s (s.log steps w) w) : Archived s (s.log steps w) w (s.after steps w) := by
  have hkeeping := keeping_after hs steps w hfresh
  exact
    { files := hkeeping.files hfresh
      artifact := fun x hx a ha => by
        obtain ⟨-, bytes, hlength, -, -, hstill⟩ := hkeeping.artifact x hx a ha
        exact ⟨bytes, (hkeeping.archived?_eq_some_iff hx).mpr ⟨a, ha, rfl, hstill⟩, hlength⟩
      nothing := hkeeping.nothing
      lasting := fun earlier x later hlog a ha y hy => by
        obtain ⟨between, rest, rfl⟩ := List.append_of_mem hy
        have hsplit : s.log steps w = (earlier ++ x :: between) ++ y :: rest := by simp [hlog]
        have hx : x ∈ earlier ++ x :: between :=
          List.mem_append_right _ List.mem_cons_self
        -- What holds of all calls holds of those before the later one, and of those up to it.
        obtain ⟨before, hbefore, hworld⟩ := exists_steps_of_log hsplit
        obtain ⟨through, hthrough, hworld'⟩ := exists_steps_through hsplit
        have hkept := keeping_after hs before w (hfresh.of_prefix (by
          rw [← hbefore, hsplit]
          exact List.prefix_append _ _))
        have hkept' := keeping_after hs through w (hfresh.of_prefix (by
          rw [hthrough, hsplit]
          exact ⟨rest, by simp⟩))
        rw [← hbefore, ← hworld] at hkept
        rw [hthrough, hworld'] at hkept'
        obtain ⟨-, bytes, -, -, hfile, hstill⟩ := hkept.artifact x hx a ha
        obtain ⟨-, bytes', -, -, hfile', hstill'⟩ :=
          hkept'.artifact x (List.mem_append_left _ hx) a ha
        exact ⟨hstill.trans hfile.symm, hstill'.trans hfile'.symm⟩
      elsewhere := fun q hq => hkeeping.other q fun x hx a ha heq =>
        hq (heq ▸ List.prefix_append _ _) }

/-- Beside an older file, one answer is spoken, after one that is not. -/
theorem archived_of_one_spoken_answer :
    let steady : Provider Replay :=
      { isConfigured := true
        complete := fun _ => pure (.ok ⟨⟨.assistant, "Because."⟩, none⟩) }
    let loud : Speech.Synthesizer Replay :=
      ⟨fun _ _ => pure (.ok ["https://translate.google.com/tts"]),
        fun _ _ => pure (.error (.speech "mute"))⟩
    let s : Service Replay := .around {} steady loud
    let steps : List Step :=
      [.ask { question := some "Why?", playAudio := false } {}, .forget none,
        .ask { question := some "How?", simplify := false } {}]
    let w : World Replay :=
      { disk := Disk.put {} ["public", "audio", "old.mp3"] (.file [9])
        outside :=
          ⟨[.time ⟨1, 0⟩, .time ⟨2, 0⟩, .time ⟨3, 0⟩, .time ⟨4, 0⟩, .time ⟨5, 0⟩, .number 6,
            .exchanged (.answered ⟨200, [], [1, 2], true⟩)], none⟩ }
    s.recorder.Tidy ∧ Fresh s (s.log steps w) w ∧
      Archived s (s.log steps w) w (s.after steps w) := by
  intro steady loud s steps w
  have htidy : s.recorder.Tidy := ⟨by decide, by decide⟩
  have hnames : (s.log steps w).filterMap s.named? = ["learnify_audio_5000_0000006.mp3"] := by
    decide +kernel
  have hshelf : s.shelf w = ["public", "audio"] := by decide +kernel
  have hfresh : Fresh s (s.log steps w) w := by
    refine ⟨by simp [hnames], fun name hname => ?_⟩
    rw [hnames] at hname
    rw [List.mem_singleton.mp hname, hshelf, Disk.file?, Disk.at?_put _ (by decide),
      if_neg (by decide)]
    simp [Disk.at?]
  exact ⟨htidy, hfresh, archived_after htidy steps w hfresh⟩

end Service

end Tutor.Ask
