import Tutor.Proofs.Settings.Setting
import Tutor.Settings.Environment

/-!
# Settings and variables

The variables of an environment are taken over one after another. What becomes of a setting is told
by its own variables alone: the last of them that has a value for it counts.

* `Setting.variableNames`, `Setting.ofText?` – the variables of a setting, and the values they have.
* `Setting.get_withEnvironment` – what an environment makes of each setting.
* `Settings.Environment.Useless` – the variables that have no value, and might as well be unset.
-/

namespace Tutor

open Settings Number Text

namespace Setting

/-! ### Variables -/

/-- The variables of a setting, the one that counts most in front. -/
def variableNames : Setting → List String
  | apiKey => ["OPENROUTER_API_KEY"]
  | apiBase => ["LEARNIFY_API_BASE"]
  | model => ["LEARNIFY_MODEL"]
  | temperature => ["LEARNIFY_TEMPERATURE"]
  | speechHost => ["LEARNIFY_TTS_HOST"]
  | folder => ["LEARNIFY_AUDIO_DIR"]
  | window => ["LEARNIFY_HISTORY_WINDOW"]
  | host => ["LEARNIFY_HOST"]
  | port => ["LEARNIFY_PORT", "PORT"]
  | timeout | simplifyTemperature | slow | spanLength | allowedHosts | fetchTimeout | redirects
  | served | beginning | extension => []

/-- The value for a setting that the text of one of its variables is, if it is one. -/
def ofText? : (k : Setting) → String → Option k.Content
  | apiKey => fun t => if isBlankText t then none else some (some t)
  | temperature => Single.ofText?
  | window => fun t => natural? wordBound t.toList
  | port => fun t => natural? portBound t.toList
  | apiBase | model | speechHost | folder | host => some
  | timeout | simplifyTemperature | slow | spanLength | allowedHosts | fetchTimeout | redirects
  | served | beginning | extension => fun _ => none

/-- The value of the first variable of a setting that has one. -/
def fromEnvironment (k : Setting) (e : Environment) : Option k.Content :=
  k.variableNames.findSome? fun name => (e.text? name).bind k.ofText?

/-! ### One variable after another -/

/-- A variable makes of a setting what its text is for it, and leaves it where it is nothing. -/
def FollowsVariable (k : Setting) (v : Variable) (value? : String → Option k.Content) : Prop :=
  ∀ t s, k.get ((v.set? t s).getD s) = (value? t).getD (k.get s)

variable {k : Setting} {v : Variable} {e : Environment} {s : Settings}

theorem FollowsVariable.get_apply {value? : String → Option k.Content}
    (h : k.FollowsVariable v value?) :
    k.get (v.apply e s) = ((e.text? v.name).bind value?).getD (k.get s) := by
  rw [Variable.apply]
  cases e.text? v.name with
  | none => rfl
  | some t => exact h t s

/-- The variables of a setting are taken as its values, and no others touch it. -/
theorem followsVariable (hv : v ∈ knownVariables) (k : Setting) :
    k.FollowsVariable v (if v.name ∈ k.variableNames then k.ofText? else fun _ => none) := by
  simp only [knownVariables, List.mem_cons, List.not_mem_nil, or_false] at hv
  intro t s
  -- Where a text may be no value, that is decided first. Then every setting is looked at.
  rcases hv with rfl | rfl | rfl | rfl | rfl | rfl | rfl | rfl | rfl | rfl
  · by_cases hblank : isBlankText t <;> cases k <;>
      simp [variableNames, ofText?, get, onOpenRouter, hblank]
  · cases k <;> simp [variableNames, ofText?, get, onOpenRouter]
  · cases k <;> simp [variableNames, ofText?, get, onOpenRouter]
  · cases hnumber : Single.ofText? t <;> cases k <;>
      simp [variableNames, ofText?, get, onOpenRouter, hnumber]
  · cases k <;> simp [variableNames, ofText?, get]
  · cases hport : natural? portBound t.toList <;> cases k <;>
      simp [variableNames, ofText?, get, hport]
  · cases hport : natural? portBound t.toList <;> cases k <;>
      simp [variableNames, ofText?, get, hport]
  · cases k <;> simp [variableNames, ofText?, get]
  · cases k <;> simp [variableNames, ofText?, get]
  · cases hwindow : natural? wordBound t.toList <;> cases k <;>
      simp [variableNames, ofText?, get, hwindow]

/-- By induction on the variables: each of them overrides what those in front of it made of the
setting. -/
theorem get_foldl_apply {vs : List Variable} (hvs : ∀ v ∈ vs, v ∈ knownVariables) :
    k.get (vs.foldl (fun s v => v.apply e s) s) =
      (((vs.map (·.name)).filter (· ∈ k.variableNames)).reverse.findSome? fun name =>
        (e.text? name).bind k.ofText?).getD (k.get s) := by
  induction vs generalizing s with
  | nil => rfl
  | cons v vs ih =>
    have hv := (followsVariable (hvs v List.mem_cons_self) k).get_apply (e := e) (s := s)
    rw [List.foldl_cons, ih fun v' hv' => hvs v' (List.mem_cons_of_mem _ hv'), hv, List.map_cons]
    by_cases hmem : v.name ∈ k.variableNames
    · rw [if_pos hmem, List.filter_cons_of_pos (by simpa using hmem), List.reverse_cons,
        List.findSome?_append, List.findSome?_singleton, Option.getD_or]
    · rw [if_neg hmem, List.filter_cons_of_neg (by simpa using hmem), Option.bind_fun_none]
      rfl

/-- What an environment makes of a setting. -/
theorem get_withEnvironment (k : Setting) (s : Settings) (e : Environment) :
    k.get (s.withEnvironment e) = (k.fromEnvironment e).getD (k.get s) := by
  have hnames : ((knownVariables.map (·.name)).filter (· ∈ k.variableNames)).reverse =
      k.variableNames := by
    cases k <;> decide
  rw [withEnvironment, get_foldl_apply fun _ hv => hv, hnames, fromEnvironment]

/-- The port is that of the first variable that spells one. -/
example : port.fromEnvironment [("PORT", [0x38, 0x30]), ("LEARNIFY_PORT", [0x78])] = some 80 := by
  decide +kernel

end Setting

/-! ### Useless variables -/

namespace Settings.Environment

variable {e : Environment} {name name' : String}

/-- An environment without a variable. -/
def without (e : Environment) (name : String) : Environment := e.filter (·.1 != name)

/-- Why a variable overrides nothing: it is not set, it is not Unicode, it is a blank credential, or
it is no number where one is wanted. -/
inductive Useless (e : Environment) : String → Prop
  | unset {name : String} : (∀ bytes, (name, bytes) ∉ e) → Useless e name
  | noText {name : String} {bytes : List UInt8} : e.find? (·.1 == name) = some (name, bytes) →
      Text.text? bytes = none → Useless e name
  | blankKey {t : String} : e.text? "OPENROUTER_API_KEY" = some t → isBlankText t = true →
      Useless e "OPENROUTER_API_KEY"
  | noTemperature {t : String} : e.text? "LEARNIFY_TEMPERATURE" = some t →
      Single.ofText? t = none → Useless e "LEARNIFY_TEMPERATURE"
  | noPort {name t : String} : name = "LEARNIFY_PORT" ∨ name = "PORT" → e.text? name = some t →
      natural? portBound t.toList = none → Useless e name
  | noWindow {t : String} : e.text? "LEARNIFY_HISTORY_WINDOW" = some t →
      natural? wordBound t.toList = none → Useless e "LEARNIFY_HISTORY_WINDOW"

theorem text?_without_self : (e.without name).text? name = none := by
  have hfind : (e.without name).find? (·.1 == name) = none := by
    apply List.find?_eq_none.mpr
    intro x hx
    simpa [without] using (List.mem_filter.mp hx).2
  rw [text?, hfind]
  rfl

theorem text?_without_of_ne (hne : name' ≠ name) :
    (e.without name).text? name' = e.text? name' := by
  have hfind : (e.without name).find? (·.1 == name') = e.find? (·.1 == name') := by
    rw [without, List.find?_filter]
    congr 1
    funext x
    by_cases hx : x.1 = name'
    · simp [hx, hne]
    · simp [hx]
  rw [text?, text?, hfind]

/-- No setting has a value for a useless variable. -/
theorem Useless.bind_ofText? (h : e.Useless name) {k : Setting} (hk : name ∈ k.variableNames) :
    (e.text? name).bind k.ofText? = none := by
  cases h with
  | unset hunset =>
    have hfind : e.find? (·.1 == name) = none := by
      apply List.find?_eq_none.mpr
      rintro ⟨name', bytes⟩ hx hname
      exact hunset bytes (eq_of_beq hname ▸ hx)
    rw [text?, hfind]
    rfl
  | noText hfind htext =>
    rw [text?, hfind]
    show (Text.text? _).bind _ = none
    rw [htext]
    rfl
  | blankKey ht hblank =>
    rw [ht]
    cases k <;> simp [Setting.variableNames, Setting.ofText?, hblank] at hk ⊢
  | noTemperature ht hnone =>
    rw [ht]
    cases k <;> simp [Setting.variableNames, Setting.ofText?, hnone] at hk ⊢
  | noPort hname ht hnone =>
    rw [ht]
    rcases hname with rfl | rfl <;>
      cases k <;> simp [Setting.variableNames, Setting.ofText?, hnone] at hk ⊢
  | noWindow ht hnone =>
    rw [ht]
    cases k <;> simp [Setting.variableNames, Setting.ofText?, hnone] at hk ⊢

/-- A useless variable might as well not be set. -/
theorem Useless.withEnvironment (h : e.Useless name) (s : Settings) :
    s.withEnvironment (e.without name) = s.withEnvironment e := by
  refine Setting.ext fun k => ?_
  have hfrom : k.fromEnvironment (e.without name) = k.fromEnvironment e := by
    rw [Setting.fromEnvironment, Setting.fromEnvironment, ← List.head?_filterMap,
      ← List.head?_filterMap]
    refine congrArg List.head? (List.filterMap_congr fun name' hmem => ?_)
    by_cases hname : name' = name
    · subst hname
      rw [text?_without_self, h.bind_ofText? hmem]
      rfl
    · rw [text?_without_of_ne hname]
  rw [Setting.get_withEnvironment, Setting.get_withEnvironment, hfrom]

end Settings.Environment

end Tutor
