import Tutor.Proofs.Completion.Reading
import Tutor.Proofs.Http.Redirect
import Tutor.Settings.Validity

/-!
# How calls end

A call needs a credential, and does nothing without one. With one it is posted, and the redirects
that answer it are followed, until an answer is final or there is none. What the final answer is
decides how the call ends: with a completion, with the credential refused, or with a fault of the
provider. Nothing else comes of a call.

* `Keyless`, `isConfigured_eq_false_iff`, `hasCredential_eq_false_iff` – when there is no
  credential.
* `IsSendable`, `exists_web_request_iff` – when there is a request that can be sent.
* `Posts`, `sent_complete_of_isSendable` – what is sent then.
* `Final`, `final_iff`, `complete_cases` – the final answer to a call, and what is made of it.
* `Ended`, `ended_complete` – how a call ends, whatever was answered.
-/

namespace Tutor.Completion

open Tutor.Http Tutor.Text

variable {s : Settings.OpenRouter} {key : String} {c : Call}

/-! ### Credentials -/

/-- There is no credential, or it is made of blanks. -/
def Keyless (s : Settings.OpenRouter) : Prop :=
  ∀ key, s.apiKey = some key → ∀ c ∈ key.toList, isBlank c = true

theorem key?_eq_some_iff :
    key? s = some key ↔ s.apiKey = some key ∧ ¬∀ c ∈ key.toList, isBlank c = true := by
  rw [key?, Option.filter_eq_some_iff, Bool.not_eq_true', isBlankText, List.all_eq_false]
  simp

theorem key?_eq_none_iff : key? s = none ↔ Keyless s := by
  rw [Option.eq_none_iff_forall_ne_some]
  simp only [ne_eq, key?_eq_some_iff, not_and, not_not]
  rfl

/-- The provider and the settings agree on whether there is a credential. -/
theorem isConfigured_eq_false_iff {σ : Type} [Outside σ] (s : Settings.OpenRouter) :
    (openRouter s : Provider σ).isConfigured = false ↔ Keyless s := by
  rw [← key?_eq_none_iff]
  exact Option.isSome_eq_false_iff.trans Option.isNone_iff_eq_none

theorem hasCredential_eq_false_iff (s : Settings) :
    s.hasCredential = false ↔ Keyless s.provider.openRouter := by
  rw [← key?_eq_none_iff, Settings.hasCredential, key?]
  cases s.provider.openRouter.apiKey <;> simp [Option.filter]

/-! ### Requests -/

/-- What a call needs to be sent: an address of the web, and a credential that can stand in a
header field. -/
structure IsSendable (s : Settings.OpenRouter) : Prop where
  address : ∃ u, Url.ofChars none (address s) = .ok u ∧ isWeb u = true
  credential : ∀ key, s.apiKey = some key → ∀ b ∈ bytesOf ("Bearer " ++ key),
    b = 9 ∨ 32 ≤ b ∧ b ≠ 127

theorem isFieldValue_iff {bs : List UInt8} :
    isFieldValue bs = true ↔ ∀ b ∈ bs, b = 9 ∨ 32 ≤ b ∧ b ≠ 127 := by
  simp [isFieldValue]

theorem exists_request_iff {u : Url} : (∃ r, request? s key c = .ok r ∧ r.url = u) ↔
    Url.ofChars none (address s) = .ok u ∧ isFieldValue (bytesOf ("Bearer " ++ key)) = true := by
  rw [request?]
  cases Url.ofChars none (address s) with
  | error why =>
    refine iff_of_false ?_ (by simp)
    rintro ⟨r, hr, -⟩
    cases hr
  | ok u' =>
    dsimp only
    split
    next hvalue => simp [hvalue]
    next hvalue =>
      refine iff_of_false ?_ fun h => hvalue h.2
      rintro ⟨r, hr, -⟩
      cases hr

/-- A call that can be sent has a request that can. -/
theorem exists_web_request_iff (hkey : s.apiKey = some key) :
    (∃ r, request? s key c = .ok r ∧ isWeb r.url = true) ↔ IsSendable s := by
  constructor
  · rintro ⟨r, hr, hweb⟩
    obtain ⟨haddress, hcredential⟩ := exists_request_iff.mp ⟨r, hr, rfl⟩
    refine ⟨⟨r.url, haddress, hweb⟩, fun key' hkey' => ?_⟩
    obtain rfl := Option.some.inj (hkey.symm.trans hkey')
    exact isFieldValue_iff.mp hcredential
  · rintro ⟨⟨u, haddress, hweb⟩, hcredential⟩
    obtain ⟨r, hr, rfl⟩ :=
      exists_request_iff.mpr ⟨haddress, isFieldValue_iff.mpr (hcredential key hkey)⟩
    exact ⟨r, hr, hweb⟩

/-- The request of a call is posted to the address under the credential. -/
structure Posts (s : Settings.OpenRouter) (r : Request) : Prop where
  method : r.method = .post
  url : Url.ofChars none (address s) = .ok r.url
  credential : ∃ key, s.apiKey = some key ∧
    r.header.first? "authorization" = some (bytesOf ("Bearer " ++ key))

theorem posts_of_request? {r : Request} (hkey : s.apiKey = some key)
    (h : request? s key c = .ok r) : Posts s r := by
  cases hu : Url.ofChars none (address s) with
  | error why =>
    rw [request?, hu] at h
    cases h
  | ok u =>
    rw [request?, hu] at h
    dsimp only at h
    split at h
    next =>
      obtain rfl := Except.ok.inj h
      exact ⟨rfl, hu, key, hkey, rfl⟩
    next => cases h

/-! ### Final answers -/

variable {σ : Type} [Outside σ] {x : σ} {a b : Response}

/-- The final answer to a call: it ends the redirects that begin with the request of the call, ten
at most, and redirects no more itself. -/
def Final (s : Settings.OpenRouter) (c : Call) (x : σ) (a : Response) : Prop :=
  ∃ key r hops last x₁ x₂, s.apiKey = some key ∧ request? s key c = .ok r ∧
    Chain r x hops last x₁ ∧ hops.length ≤ 10 ∧ (∀ q ∈ hops, isWeb q.url = true) ∧
    isWeb last.url = true ∧ Outside.exchange last x₁ = (.answered a, x₂) ∧
    target? last.url a = none

theorem final_iff (hkey : s.apiKey = some key) : Final s c x a ↔
    ∃ r, request? s key c = .ok r ∧ ((policy.send r).run x).value = .ok a := by
  simp only [Policy.send, send_eq_ok_iff]
  constructor
  · rintro ⟨key', r, hops, last, x₁, x₂, hkey', hr, hchain, hshort, hwebs, hweb, ha, hfinal⟩
    obtain rfl := Option.some.inj (hkey.symm.trans hkey')
    exact ⟨r, hr, hops, last, x₁, x₂, hchain, ⟨hwebs, fun _ _ => rfl, hshort⟩, hweb, ha, hfinal⟩
  · rintro ⟨r, hr, hops, last, x₁, x₂, hchain, hpasses, hweb, ha, hfinal⟩
    exact ⟨key, r, hops, last, x₁, x₂, hkey, hr, hchain, hpasses.short, hpasses.web, hweb, ha,
      hfinal⟩

/-- How a call goes: without a credential it fails and sends nothing; without a final answer it
fails; and else it ends as the final answer does, of which there is one. -/
theorem complete_cases (s : Settings.OpenRouter) (c : Call) (x : σ) :
    (Keyless s ∧ (complete s c).run x = ⟨.error (.credential credentialName), [], x⟩) ∨
    (¬Keyless s ∧ (∀ a, ¬Final s c x a) ∧
      ∃ why, ((complete s c).run x).value = .error (.provider why)) ∨
    (¬Keyless s ∧ ∃ a, (∀ b, Final s c x b ↔ b = a) ∧
      ((complete s c).run x).value = replyOf a) := by
  rw [complete]
  cases hkey : key? s with
  | none => exact .inl ⟨key?_eq_none_iff.mp hkey, rfl⟩
  | some key =>
    have hkeyed : ¬Keyless s := by
      rw [← key?_eq_none_iff, hkey]
      simp
    have hfinal := fun a => final_iff (key?_eq_some_iff.mp hkey).1 (c := c) (x := x) (a := a)
    right
    dsimp only
    cases hr : request? s key c with
    | error why => exact .inl ⟨hkeyed, by simp [hfinal, hr], _, rfl⟩
    | ok r =>
      simp only [hr, Except.ok.injEq, exists_eq_left'] at hfinal
      cases hsend : ((policy.send r).run x).value with
      | error why =>
        exact .inl ⟨hkeyed, by simp [hfinal, hsend],
          "Failed to reach OpenRouter: " ++ why.message, by simp [hsend]⟩
      | ok a => exact .inr ⟨hkeyed, a, by simp [hfinal, hsend, eq_comm], by simp [hsend]⟩

/-- What cannot be sent is not sent, and that is a fault of the provider. -/
theorem run_complete_of_not_isSendable (hkey : ¬Keyless s) (h : ¬IsSendable s) (c : Call) (x : σ) :
    ∃ why, (complete s c).run x = ⟨.error (.provider why), [], x⟩ := by
  obtain ⟨key, hkey⟩ := Option.ne_none_iff_exists'.mp (mt key?_eq_none_iff.mp hkey)
  rw [complete, hkey]
  dsimp only
  cases hr : request? s key c with
  | error why => exact ⟨_, rfl⟩
  | ok r =>
    have hweb : isWeb r.url = false := by
      rw [← Bool.not_eq_true]
      exact fun hweb => h ((exists_web_request_iff (key?_eq_some_iff.mp hkey).1).mp ⟨r, hr, hweb⟩)
    have hsend : (policy.send r).run x = _ := run_send_of_ending (.unsendable hweb)
    exact ⟨_, by dsimp only; rw [Errand.run_bind, hsend]; rfl⟩

/-- What can be sent is sent. -/
theorem sent_complete_of_isSendable (hkey : ¬Keyless s) (h : IsSendable s) (c : Call) (x : σ) :
    ∃ r more, Posts s r ∧ ((complete s c).run x).sent = r :: more := by
  obtain ⟨key, hkey⟩ := Option.ne_none_iff_exists'.mp (mt key?_eq_none_iff.mp hkey)
  have hkey' := (key?_eq_some_iff.mp hkey).1
  obtain ⟨r, hr, hweb⟩ := (exists_web_request_iff (c := c) hkey').mpr h
  obtain ⟨more, hsent⟩ := exists_sent_eq_cons policy policy.limit x hweb
  refine ⟨r, more, posts_of_request? hkey' hr, ?_⟩
  rw [complete, hkey]
  simp only [hr, Errand.run_bind]
  rw [Policy.send]
  cases ((send policy policy.limit r).run x).value with
  | ok a => rw [← hsent]; exact List.append_nil _
  | error why => rw [← hsent]; exact List.append_nil _

/-! ### What is made of the final answer -/

/-- An answer is accepted: it is a success, and a completion has arrived as a whole. -/
structure IsAccepted (a : Response) : Prop where
  success : 200 ≤ a.status ∧ a.status < 300
  whole : a.isWhole = true
  completion : ∃ choices usage, IsCompletion a.body choices usage

theorem exists_replyOf_iff : (∃ reply, replyOf a = .ok reply) ↔ IsAccepted a := by
  simp only [replyOf_eq_ok_iff, exists_parts_iff]
  constructor
  · rintro ⟨reply, hlow, hhigh, hwhole, choices, usage, hcompletion, -⟩
    exact ⟨⟨hlow, hhigh⟩, hwhole, choices, usage, hcompletion⟩
  · rintro ⟨⟨hlow, hhigh⟩, hwhole, choices, usage, hcompletion⟩
    obtain ⟨reply, hreply⟩ := hcompletion.2.exists_tells
    exact ⟨reply, hlow, hhigh, hwhole, choices, usage, hcompletion, hreply⟩

/-- A final answer that is not accepted is a fault of the provider, unless it refuses the
credential. -/
theorem replyOf_cases (a : Response) :
    (IsAccepted a ∧ a.status ≠ 401 ∧ ∃ reply, replyOf a = .ok reply) ∨
    (¬IsAccepted a ∧ a.status = 401 ∧ ∃ why, replyOf a = .error (.authentication why)) ∨
    (¬IsAccepted a ∧ a.status ≠ 401 ∧ ∃ why, replyOf a = .error (.provider why)) := by
  rw [← exists_replyOf_iff, replyOf]
  split
  next hstatus => exact .inr (.inl ⟨by simp, by simpa using hstatus, _, rfl⟩)
  next hstatus =>
    have hother : a.status ≠ 401 := by simpa using hstatus
    split
    next => exact .inr (.inr ⟨by simp, hother, _, rfl⟩)
    split
    next => exact .inr (.inr ⟨by simp, hother, _, rfl⟩)
    split
    next p _ => exact .inl ⟨⟨p.reply, rfl⟩, hother, p.reply, rfl⟩
    next => exact .inr (.inr ⟨by simp, hother, _, rfl⟩)

/-! ### How a call ends -/

/-- How a call to the language model of some settings ends: which credential, which final answer
and which results go with each other. -/
structure Ended (s : Settings) (c : Call) (x : σ) (y : Errand.Yield σ (Except Fault Reply)) :
    Prop where
  configured : (openRouter s.provider.openRouter : Provider σ).isConfigured = false ↔
    Keyless s.provider.openRouter
  credited : s.hasCredential = false ↔ Keyless s.provider.openRouter
  keyless : y.value = .error (.credential credentialName) ↔ Keyless s.provider.openRouter
  unsent : Keyless s.provider.openRouter → y.sent = []
  unsendable : ¬Keyless s.provider.openRouter → ¬IsSendable s.provider.openRouter →
    (∃ why, y.value = .error (.provider why)) ∧ y.sent = []
  sendable : ¬Keyless s.provider.openRouter → IsSendable s.provider.openRouter →
    ∃ r more, Posts s.provider.openRouter r ∧ y.sent = r :: more
  replied : (∃ reply, y.value = .ok reply) ↔
    ¬Keyless s.provider.openRouter ∧ ∃ a, Final s.provider.openRouter c x a ∧ IsAccepted a
  refused : (∃ why, y.value = .error (.authentication why)) ↔
    ¬Keyless s.provider.openRouter ∧ ∃ a, Final s.provider.openRouter c x a ∧ a.status = 401
  failed : (∃ why, y.value = .error (.provider why)) ↔
    ¬Keyless s.provider.openRouter ∧
      ∀ a, Final s.provider.openRouter c x a → ¬IsAccepted a ∧ a.status ≠ 401
  exhaustive : (∃ reply, y.value = .ok reply) ∨
    y.value = .error (.credential credentialName) ∨
    (∃ why, y.value = .error (.authentication why)) ∨ ∃ why, y.value = .error (.provider why)

/-- A call ends in one of four ways, whatever the settings, the call and what lies outside. -/
theorem ended_complete (s : Settings) (c : Call) (x : σ) :
    Ended s c x (((openRouter s.provider.openRouter).complete c).run x) := by
  have hconfigured := isConfigured_eq_false_iff (σ := σ) s.provider.openRouter
  have hcredited := hasCredential_eq_false_iff s
  have hunsendable : ¬Keyless s.provider.openRouter → ¬IsSendable s.provider.openRouter →
      (∃ why, ((complete s.provider.openRouter c).run x).value = .error (.provider why)) ∧
        ((complete s.provider.openRouter c).run x).sent = [] := by
    intro hkeyed hunsendable
    obtain ⟨why, hrun⟩ := run_complete_of_not_isSendable hkeyed hunsendable c x
    rw [hrun]
    exact ⟨⟨why, rfl⟩, rfl⟩
  have hsendable := fun hkeyed hsendable =>
    sent_complete_of_isSendable (s := s.provider.openRouter) hkeyed hsendable c x
  show Ended s c x ((complete s.provider.openRouter c).run x)
  rcases complete_cases s.provider.openRouter c x with
    ⟨hkeyless, hrun⟩ | ⟨hkeyed, hnone, why, hvalue⟩ | ⟨hkeyed, a, hfinal, hvalue⟩
  · refine ⟨hconfigured, hcredited, ?_, ?_, hunsendable, hsendable, ?_, ?_, ?_, ?_⟩ <;>
      simp [hrun, hkeyless]
  · refine ⟨hconfigured, hcredited, ?_, ?_, hunsendable, hsendable, ?_, ?_, ?_, ?_⟩ <;>
      simp [hvalue, hkeyed, hnone]
  · -- There is one final answer, so what holds of it decides.
    rcases replyOf_cases a with ⟨haccepted, hstatus, result, hresult⟩ |
        ⟨haccepted, hstatus, result, hresult⟩ | ⟨haccepted, hstatus, result, hresult⟩ <;>
      refine ⟨hconfigured, hcredited, ?_, ?_, hunsendable, hsendable, ?_, ?_, ?_, ?_⟩ <;>
      simp [hvalue, hresult, hkeyed, hfinal, haccepted, hstatus]

end Tutor.Completion
