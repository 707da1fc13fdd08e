import Mathlib.Data.Option.Basic
import Tutor.Proofs.Yaml.Record
import Tutor.Settings.Reading

/-!
# Settings one by one

The settings are a record of records. Here each of them has a name, a place in the record and a
path of keys in a file. A file that can be read tells of each setting: what stands at the end of
its path is read into its place, and a setting of which nothing is written has its default.

* `Setting`, `Setting.get`, `Setting.ext` – the settings by name; there are no others.
* `Setting.path`, `Setting.read` – where a setting stands in a file, and how it is read.
* `Setting.tells`, `Setting.get_of_ofDocument?` – what a document tells of each setting.
-/

namespace Tutor

open Yaml Number

/-- The settings by name. -/
inductive Setting where
  | apiKey | apiBase | model | temperature | timeout | simplifyTemperature
  | speechHost | slow | spanLength | allowedHosts | fetchTimeout | redirects
  | folder | served | beginning | extension
  | window
  | host | port
deriving DecidableEq, Repr

namespace Setting

/-- What a setting holds. -/
abbrev Content : Setting → Type
  | apiKey => Option String
  | temperature | simplifyTemperature => Single
  | slow => Bool
  | allowedHosts => List String
  | timeout | spanLength | fetchTimeout | redirects | window | port => Nat
  | apiBase | model | speechHost | folder | served | beginning | extension | host => String

/-- A setting among all settings. -/
def get : (k : Setting) → Settings → k.Content
  | apiKey => (·.provider.openRouter.apiKey)
  | apiBase => (·.provider.openRouter.apiBase)
  | model => (·.provider.openRouter.model)
  | temperature => (·.provider.openRouter.temperature)
  | timeout => (·.provider.openRouter.timeout)
  | simplifyTemperature => (·.provider.simplifyTemperature)
  | speechHost => (·.speech.host)
  | slow => (·.speech.slow)
  | spanLength => (·.speech.spanLength)
  | allowedHosts => (·.speech.allowedHosts)
  | fetchTimeout => (·.speech.timeout)
  | redirects => (·.speech.redirects)
  | folder => (·.audio.folder)
  | served => (·.audio.served)
  | beginning => (·.audio.beginning)
  | extension => (·.audio.extension)
  | window => (·.session.window)
  | host => (·.server.host)
  | port => (·.server.port)

/-- Settings that agree one by one are the same. -/
theorem ext {s s' : Settings} (h : ∀ k : Setting, k.get s = k.get s') : s = s' := by
  have hrouter : s.provider.openRouter = s'.provider.openRouter :=
    (Settings.OpenRouter.mk.injEq ..).mpr
      ⟨h apiKey, h apiBase, h model, h temperature, h timeout⟩
  have hprovider : s.provider = s'.provider :=
    (Settings.Provider.mk.injEq ..).mpr ⟨hrouter, h simplifyTemperature⟩
  have hspeech : s.speech = s'.speech :=
    (Settings.Speech.mk.injEq ..).mpr
      ⟨h speechHost, h slow, h spanLength, h allowedHosts, h fetchTimeout, h redirects⟩
  have haudio : s.audio = s'.audio :=
    (Settings.Audio.mk.injEq ..).mpr ⟨h folder, h served, h beginning, h extension⟩
  have hsession : s.session = s'.session := (Settings.Session.mk.injEq ..).mpr (h window)
  have hserver : s.server = s'.server := (Settings.Server.mk.injEq ..).mpr ⟨h host, h port⟩
  exact (Settings.mk.injEq ..).mpr ⟨hprovider, hspeech, haudio, hsession, hserver⟩

/-! ### In a file -/

/-- The keys that lead to a setting in a file. -/
def path : Setting → List String
  | apiKey => ["provider", "openrouter", "api_key"]
  | apiBase => ["provider", "openrouter", "api_base"]
  | model => ["provider", "openrouter", "model"]
  | temperature => ["provider", "openrouter", "temperature"]
  | timeout => ["provider", "openrouter", "timeout_seconds"]
  | simplifyTemperature => ["provider", "simplify_temperature"]
  | speechHost => ["speech", "tts_host"]
  | slow => ["speech", "slow"]
  | spanLength => ["speech", "chunk_chars"]
  | allowedHosts => ["speech", "allowed_hosts"]
  | fetchTimeout => ["speech", "fetch_timeout_seconds"]
  | redirects => ["speech", "max_redirects"]
  | folder => ["audio", "output_dir"]
  | served => ["audio", "public_prefix"]
  | beginning => ["audio", "filename_prefix"]
  | extension => ["audio", "extension"]
  | window => ["session", "window_size"]
  | host => ["server", "host"]
  | port => ["server", "port"]

/-- How a setting is read. -/
def read : (k : Setting) → Anchors → Node → Option k.Content
  | apiKey => Node.textOrNull?
  | temperature | simplifyTemperature => Node.single?
  | slow => Node.truth?
  | allowedHosts => Node.texts?
  | timeout | spanLength | fetchTimeout | redirects | window =>
    fun known => Node.natural? known Settings.wordBound
  | port => fun known => Node.natural? known Settings.portBound
  | apiBase | model | speechHost | folder | served | beginning | extension | host => Node.text?

/-- What a document says of a setting, if it is mentioned. -/
def fromDocument (k : Setting) (d : Document) : Option k.Content :=
  (d.root.at? d.anchored k.path).bind (k.read d.anchored)

section

open Settings

theorem isField_openRouter : IsField providerFields "openrouter"
    (fun known n => n.record openRouterFields known {}) Provider.openRouter := by
  constructor <;> simp [providerFields, Option.bind_eq_some_iff]

theorem isField_provider : IsField Settings.fields "provider"
    (fun known n => n.record providerFields known {}) Settings.provider := by
  constructor <;> simp [Settings.fields, Option.bind_eq_some_iff]

theorem isField_speech : IsField Settings.fields "speech"
    (fun known n => n.record speechFields known {}) Settings.speech := by
  constructor <;> simp [Settings.fields, Option.bind_eq_some_iff]

theorem isField_audio : IsField Settings.fields "audio"
    (fun known n => n.record audioFields known {}) Settings.audio := by
  constructor <;> simp [Settings.fields, Option.bind_eq_some_iff]

theorem isField_session : IsField Settings.fields "session"
    (fun known n => n.record sessionFields known {}) Settings.session := by
  constructor <;> simp [Settings.fields, Option.bind_eq_some_iff]

theorem isField_server : IsField Settings.fields "server"
    (fun known n => n.record serverFields known {}) Settings.server := by
  constructor <;> simp [Settings.fields, Option.bind_eq_some_iff]

/-- All settings tell of each one. What is left of each case is that one field of its record sets
it and no other touches it. -/
theorem tells (k : Setting) :
    Tells (fun known n => n.record Settings.fields known {}) {} k.path k.read k.get := by
  cases k <;> dsimp only [path, Setting.read, get]
  case apiKey | apiBase | model | temperature | timeout =>
    refine isField_provider.tells_within
      (isField_openRouter.tells_within (IsField.tells ?_) rfl) rfl
    constructor <;> simp [openRouterFields, Option.bind_eq_some_iff]
  case simplifyTemperature =>
    refine isField_provider.tells_within (IsField.tells ?_) rfl
    constructor <;> simp [providerFields, Option.bind_eq_some_iff]
  case speechHost | slow | spanLength | allowedHosts | fetchTimeout | redirects =>
    refine isField_speech.tells_within (IsField.tells ?_) rfl
    constructor <;> simp [speechFields, Option.bind_eq_some_iff,
      -Bool.exists_bool, -Bool.forall_bool]
  case folder | served | beginning | extension =>
    refine isField_audio.tells_within (IsField.tells ?_) rfl
    constructor <;> simp [audioFields, Option.bind_eq_some_iff]
  case window =>
    refine isField_session.tells_within (IsField.tells ?_) rfl
    constructor <;> simp [sessionFields, Option.bind_eq_some_iff]
  case host | port =>
    refine isField_server.tells_within (IsField.tells ?_) rfl
    constructor <;> simp [serverFields, Option.bind_eq_some_iff]

variable {d : Document} {s : Settings}

/-- What is read of a document, setting by setting. -/
theorem get_of_ofDocument? (h : Settings.ofDocument? d = some s) (k : Setting) :
    k.get s = (k.fromDocument d).getD (k.get {}) := by
  have htold := tells k d.anchored d.root s h
  rw [fromDocument]
  cases hat : d.root.at? d.anchored k.path with
  | none =>
    rw [hat] at htold
    exact (Option.some.inj htold).symm
  | some v =>
    rw [hat] at htold
    have hread : k.read d.anchored v = some (k.get s) := htold
    rw [Option.bind_some, hread]
    rfl

/-- What a document mentions is a value of its setting, or nothing is read of it at all. -/
theorem isSome_fromDocument (h : Settings.ofDocument? d = some s) {k : Setting} {v : Node}
    (hat : d.root.at? d.anchored k.path = some v) : (k.fromDocument d).isSome = true := by
  have hread := tells k d.anchored d.root s h
  rw [hat] at hread
  rw [fromDocument, hat, Option.bind_some, show k.read d.anchored v = some (k.get s) from hread]
  rfl

end

end Setting

end Tutor
