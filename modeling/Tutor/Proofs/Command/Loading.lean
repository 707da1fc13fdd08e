import Tutor.Command.Program
import Tutor.Proofs.Disk.Lookup
import Tutor.Proofs.Settings.Environment
import Tutor.Proofs.Text.Utf8

/-!
# The settings that hold

Every setting can be told in several places: on the command line, in the environment and in a file.
The settings that hold for an invocation are told setting by setting: each has the value of the
first place that has one for it, or else its default. A file that is found but cannot be used is a
fault, whatever the other places say. A file that cannot be looked up passes for one that is
missing.

* `Setting.value` – the value of a setting, by where it is told.
* `Finds`, `Broken`, `Hidden` – what the file of the settings is like.
* `settings_of_finds`, `settings_of_broken`, `settings_of_hidden` – what becomes of it.
* `Loads`, `settings_loads` – what can be relied on, in one statement.
-/

namespace Tutor

open Settings

namespace Setting

/-- The value that a command names for a setting. -/
def fromCommand : (k : Setting) → Command → Option k.Content
  | host => fun
    | .serve h _ => h
    | .ask _ => none
  | port => fun
    | .serve _ p => p
    | .ask _ => none
  | _ => fun _ => none

/-- The value of a setting: what the command names, else what a variable has, else what a document
says, else the default. -/
def value (k : Setting) (c : Command) (e : Environment) (doc? : Option Yaml.Document) : k.Content :=
  ((k.fromCommand c).or ((k.fromEnvironment e).or (doc?.bind k.fromDocument))).getD (k.get {})

end Setting

namespace Command

open Setting

variable {i : Invocation} {d : Disk} {e : Environment} {path : String}

/-! ### The file -/

/-- No file with settings stands at a path, or one that can be looked up and that holds a document
which settings can be read of. -/
inductive Finds (d : Disk) (path : String) : Option Yaml.Document → Prop
  | missing : (∀ entry, ¬ d.Stands (.ofText path) entry) → Finds d path none
  | written {bytes : List UInt8} {text : String} {doc : Yaml.Document} {s : Settings} :
      d.Stands (.ofText path) (.file bytes) → d.Reachable (.ofText path) →
      Text.text? bytes = some text → Yaml.Document.ofText? text = some doc →
      ofDocument? doc = some s → Finds d path (some doc)

/-- What stands at a path can be looked up and cannot be used; `front` is what the complaint begins
with. -/
inductive Broken (d : Disk) (path : String) : (front : String) → Prop
  | noFile : d.Stands (.ofText path) .folder → d.Reachable (.ofText path) →
      Broken d path "Failed to read config file: "
  | noText {bytes : List UInt8} : d.Stands (.ofText path) (.file bytes) →
      d.Reachable (.ofText path) → Text.text? bytes = none →
      Broken d path "Failed to read config file: "
  | noSettings {bytes : List UInt8} {text : String} : d.Stands (.ofText path) (.file bytes) →
      d.Reachable (.ofText path) → Text.text? bytes = some text →
      (∀ doc, Yaml.Document.ofText? text = some doc → ofDocument? doc = none) →
      Broken d path "Failed to parse config: "

/-- Something stands at a path that cannot be looked up: a folder on the way may not be searched, or
the path is one that no disk takes. -/
def Hidden (d : Disk) (path : String) : Prop :=
  (∃ entry, d.Stands (.ofText path) entry) ∧ ¬ d.Reachable (.ofText path)

/-- There is nothing else that a file can be like. -/
theorem finds_or_broken_or_hidden (d : Disk) (path : String) :
    (∃ doc?, Finds d path doc?) ∨ (∃ front, Broken d path front) ∨ Hidden d path := by
  by_cases hstands : ∃ entry, d.Stands (.ofText path) entry
  · by_cases hreach : d.Reachable (.ofText path)
    · obtain ⟨entry, hentry⟩ := hstands
      cases entry with
      | folder => exact .inr (.inl ⟨_, .noFile hentry hreach⟩)
      | file bytes =>
        cases htext : Text.text? bytes with
        | none => exact .inr (.inl ⟨_, .noText hentry hreach htext⟩)
        | some text =>
          by_cases hdoc :
              ∃ doc, Yaml.Document.ofText? text = some doc ∧ ∃ s, ofDocument? doc = some s
          · obtain ⟨doc, hdoc, s, hs⟩ := hdoc
            exact .inl ⟨some doc, .written hentry hreach htext hdoc hs⟩
          · refine .inr (.inl ⟨_, .noSettings hentry hreach htext fun doc hread => ?_⟩)
            exact Option.eq_none_iff_forall_ne_some.mpr fun s hs => hdoc ⟨doc, hread, s, hs⟩
    · exact .inr (.inr ⟨hstands, hreach⟩)
  · exact .inl ⟨none, .missing fun entry hentry => hstands ⟨entry, hentry⟩⟩

/-- Where nothing can be found, all defaults hold. -/
theorem settingsOf_of_not_exists (h : d.exists? (.ofText path) = false) :
    settingsOf d path = .ok {} := by
  rw [settingsOf, h]
  rfl

theorem settingsOf_of_hidden (h : Hidden d path) : settingsOf d path = .ok {} := by
  refine settingsOf_of_not_exists (Bool.eq_false_iff.mpr fun hexists => h.2 ?_)
  exact (Disk.exists?_eq_true_iff.mp hexists).1

/-- What is read where a file stands that can be looked up. -/
theorem settingsOf_of_file {bytes : List UInt8} (hstands : d.Stands (.ofText path) (.file bytes))
    (hreach : d.Reachable (.ofText path)) :
    d.exists? (.ofText path) = true ∧ d.contents (.ofText path) = .ok bytes :=
  ⟨Disk.exists?_eq_true_iff.mpr ⟨hreach, _, hstands⟩,
    Disk.contents_eq_ok.mpr (Disk.exists_locate_file_iff.mpr ⟨hreach, hstands⟩)⟩

/-- The settings of a file that can be used have what it says, and defaults for the rest. -/
theorem settingsOf_of_finds {doc? : Option Yaml.Document} (h : Finds d path doc?) :
    ∃ s, settingsOf d path = .ok s ∧
      ∀ k : Setting, k.get s = (doc?.bind k.fromDocument).getD (k.get {}) := by
  cases h with
  | missing hnone =>
    refine ⟨{}, settingsOf_of_not_exists (Bool.eq_false_iff.mpr fun hexists => ?_), fun k => rfl⟩
    obtain ⟨-, entry, hentry⟩ := Disk.exists?_eq_true_iff.mp hexists
    exact hnone entry hentry
  | @written bytes text doc s hstands hreach htext hdoc hs =>
    obtain ⟨hexists, hcontents⟩ := settingsOf_of_file hstands hreach
    refine ⟨s, ?_, fun k => k.get_of_ofDocument? hs⟩
    have hread : Settings.ofText? text = some s := by
      rw [Settings.ofText?, hdoc]
      exact hs
    rw [settingsOf, hexists, if_pos rfl, hcontents]
    simp only [htext, hread]

theorem settingsOf_of_broken {front : String} (h : Broken d path front) :
    ∃ detail, settingsOf d path = .error (.configuration (front ++ detail)) := by
  rw [settingsOf]
  cases h with
  | noFile hstands hreach =>
    obtain ⟨p, hlocate⟩ := Disk.exists_locate_folder_iff.mpr ⟨hreach, hstands⟩
    rw [Disk.exists?_eq_true_iff.mpr ⟨hreach, _, hstands⟩, if_pos rfl, Disk.contents, hlocate]
    exact ⟨_, rfl⟩
  | noText hstands hreach htext =>
    obtain ⟨hexists, hcontents⟩ := settingsOf_of_file hstands hreach
    rw [hexists, if_pos rfl, hcontents]
    simp only [htext]
    exact ⟨"stream did not contain valid UTF-8", rfl⟩
  | @noSettings bytes text hstands hreach htext hnone =>
    obtain ⟨hexists, hcontents⟩ := settingsOf_of_file hstands hreach
    have hread : Settings.ofText? text = none := by
      rw [Settings.ofText?]
      exact Option.bind_eq_none_iff.mpr hnone
    rw [hexists, if_pos rfl, hcontents]
    simp only [htext, hread]
    exact ⟨"invalid document", rfl⟩

/-! ### The command line -/

theorem get_override (k : Setting) (i : Invocation) (s : Settings) :
    k.get (i.override s) = (k.fromCommand i.command).getD (k.get s) := by
  rw [Invocation.override]
  cases i.command with
  | ask q => cases k <;> rfl
  | serve h p => cases k <;> rfl

/-! ### All together -/

theorem settings_of_finds {doc? : Option Yaml.Document} (h : Finds d i.settingsFile doc?) :
    ∃ s, i.settings d e = .ok s ∧ ∀ k : Setting, k.get s = k.value i.command e doc? := by
  obtain ⟨s, hs, hget⟩ := settingsOf_of_finds h
  refine ⟨i.override (s.withEnvironment e), ?_, fun k => ?_⟩
  · rw [Invocation.settings, hs]
    rfl
  · rw [get_override, get_withEnvironment, hget, value, Option.getD_or, Option.getD_or]

theorem settings_of_broken {front : String} (h : Broken d i.settingsFile front) :
    ∃ detail, i.settings d e = .error (.configuration (front ++ detail)) := by
  obtain ⟨detail, hdetail⟩ := settingsOf_of_broken h
  refine ⟨detail, ?_⟩
  rw [Invocation.settings, hdetail]
  rfl

/-- A file that cannot be looked up is passed over without a word. -/
theorem settings_of_hidden (h : Hidden d i.settingsFile) :
    ∃ s, i.settings d e = .ok s ∧ ∀ k : Setting, k.get s = k.value i.command e none := by
  refine ⟨i.override (Settings.withEnvironment {} e), ?_, fun k => ?_⟩
  · rw [Invocation.settings, settingsOf_of_hidden h]
    rfl
  · rw [get_override, get_withEnvironment, value, Option.getD_or, Option.getD_or]
    rfl

/-- What can be relied on when the settings of an invocation are loaded. -/
structure Loads (i : Invocation) (d : Disk) (e : Environment) : Prop where
  /-- A file is missing, or it has settings, or it is broken, or it cannot be looked up. -/
  states : (∃ doc?, Finds d i.settingsFile doc?) ∨ (∃ front, Broken d i.settingsFile front) ∨
    Hidden d i.settingsFile
  /-- Without a file and with one that has settings, each setting has the value of the first place
  that has one for it. -/
  values : ∀ doc?, Finds d i.settingsFile doc? →
    ∃ s, i.settings d e = .ok s ∧ ∀ k : Setting, k.get s = k.value i.command e doc?
  /-- What the file mentions is a value of its setting. -/
  mentioned : ∀ doc, Finds d i.settingsFile (some doc) → ∀ (k : Setting) v,
    doc.root.at? doc.anchored k.path = some v → (k.fromDocument doc).isSome = true
  /-- A setting that nothing overrides is as the file has it. -/
  kept : ∀ doc? s, Finds d i.settingsFile doc? → i.settings d e = .ok s →
    ∀ k : Setting, k.fromCommand i.command = none → k.fromEnvironment e = none →
      k.get s = (doc?.bind k.fromDocument).getD (k.get {})
  /-- A broken file is a fault, whatever is overridden. -/
  broken : ∀ front, Broken d i.settingsFile front →
    ∃ detail, i.settings d e = .error (.configuration (front ++ detail))
  /-- A file that cannot be looked up is as good as none, whatever it holds. -/
  hidden : Hidden d i.settingsFile →
    ∃ s, i.settings d e = .ok s ∧ ∀ k : Setting, k.get s = k.value i.command e none
  /-- A variable without a value might as well be unset. -/
  useless : ∀ name, e.Useless name → i.settings d (e.without name) = i.settings d e
  /-- A question overrides nothing. -/
  asked : ∀ q, i.command = .ask q →
    i.settings d e = (settingsOf d i.settingsFile).map (·.withEnvironment e)

/-- Whatever stands in the file of the settings and in the environment, this is what is loaded. -/
theorem settings_loads (i : Invocation) (d : Disk) (e : Environment) : Loads i d e where
  states := finds_or_broken_or_hidden d i.settingsFile
  values _ h := settings_of_finds h
  mentioned doc h k v hat := by
    cases h with
    | written _ _ _ _ hs => exact isSome_fromDocument hs hat
  kept doc? s h hs k hcommand hvariables := by
    obtain ⟨s', hs', hvalue⟩ := settings_of_finds (e := e) h
    obtain rfl := Except.ok.inj (hs.symm.trans hs')
    rw [hvalue, value, hcommand, hvariables]
    rfl
  broken _ h := settings_of_broken h
  hidden h := settings_of_hidden h
  useless name h := by
    rw [Invocation.settings, Invocation.settings]
    refine congrArg (Except.map · _) (funext fun s => ?_)
    rw [h.withEnvironment]
  asked q hq := by
    rw [Invocation.settings]
    refine congrArg (Except.map · _) (funext fun s => ?_)
    rw [Invocation.override, hq]

/-- A file without a document goes unnoticed in a folder that may not be searched, and all defaults
hold. In a folder that may be searched, the same file is a fault. -/
theorem settings_of_hidden_file :
    let i : Invocation := {}
    let bytes := Text.bytesOf "provider: ["
    let d : Disk := (Disk.put {} ["config"] .folder).put ["config", "config.yaml"] (.file bytes)
    let closed : Disk := { d with closed := [["config"]] }
    Settings.ofText? "provider: [" = none ∧ closed.Stands (.ofText i.settingsFile) (.file bytes) ∧
      i.settings closed [] = .ok {} ∧ ∃ detail, i.settings d [] =
        .error (.configuration ("Failed to parse config: " ++ detail)) := by
  intro i bytes d closed
  have hpath : Path.ofText i.settingsFile = ⟨false, ["config", "config.yaml"], false, false⟩ := by
    decide +kernel
  have hnone : Settings.ofText? "provider: [" = none :=
    Option.isNone_iff_eq_none.mp (by decide +kernel)
  have hhere : d.here = [] := rfl
  have hfolder : d.at? ["config"] = some .folder := by simp [d, Disk.at?_put]
  have hentry : d.at? ["config", "config.yaml"] = some (.file bytes) := by simp [d, Disk.at?_put]
  have hfile : d.Stands (.ofText i.settingsFile) (.file bytes) := by
    rw [hpath]
    refine .file rfl (by simp [Disk.LeadsBack]) ?_ ?_
    · simp [Disk.above, Disk.way, Disk.startOf, hhere, hfolder]
    · simp [Disk.placeOf, Disk.walk, hhere, hentry]
  have hhidden : closed.Stands (.ofText i.settingsFile) (.file bytes) := by
    cases hfile with
    | file hfile hback habove hat => exact .file hfile hback habove hat
  refine ⟨hnone, hhidden, ?_, ?_⟩
  · have hunreachable : ¬ closed.Reachable (.ofText i.settingsFile) := fun hreach => by
      have hopen := hreach.searchable ["config"] (by rw [hpath]; decide)
      exact absurd hopen (by decide)
    rw [Invocation.settings, settingsOf_of_hidden ⟨⟨_, hhidden⟩, hunreachable⟩]
    rfl
  · have hreach : d.Reachable (.ofText i.settingsFile) := by
      rw [hpath]
      exact ⟨⟨by decide +kernel, by decide +kernel⟩, by simp [d, Disk.isClosed, Disk.put]⟩
    have htext : Text.text? bytes = some "provider: [" := Text.text?_utf8 _
    refine settings_of_broken (.noSettings hfile hreach htext fun doc hdoc => ?_)
    rw [Settings.ofText?, hdoc] at hnone
    exact hnone

end Command

end Tutor
