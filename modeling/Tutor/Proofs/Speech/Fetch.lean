import Tutor.Proofs.Http.Redirect
import Tutor.Speech.Assembly

/-!
# Fetching one piece

A location is checked against the list of allowed hosts, and the request for it may be redirected
to hosts on the list only. What comes of it is told here by the chain of redirects that what lies
outside presents.

* `Arrives`, `arrives_iff` – when a piece arrives whole.
* `Rejected`, `isRejection_of_fetch` – when a host on the way is not allowed.
* `admits_of_sent` – where requests go.
* `visits` – the fetching of many pieces one after another, apart from any file.
-/

namespace Tutor.Speech.Fetching

open Tutor.Http

variable {σ : Type} [Outside σ]

/-- A piece arrives: its location may be fetched from, and a chain of redirects that the list of
hosts lets pass ends in a whole answer whose status counts as success. -/
def Arrives (f : Fetching) (s : σ) (location : String) (r : Response) : Prop :=
  ∃ u hops last s₁ s₂, f.allowed.check location = .ok u ∧ Chain (f.request u) s hops last s₁ ∧
    f.policy.Passes f.redirects hops last ∧ isWeb last.url = true ∧
    Outside.exchange last s₁ = (.answered r, s₂) ∧ target? last.url r = none ∧
    200 ≤ r.status ∧ r.status < 400 ∧ r.isWhole = true

/-- A piece is rejected, naming a host: the host of its location is not on the list, or a chain of
redirects, with a redirect left, leads to a host that is not. -/
inductive Rejected (f : Fetching) (s : σ) (location : String) : String → Prop
  | location {u : Url} : Url.ofText location = .ok u → isWeb u = true → f.allowed.admits u = false →
      Rejected f s location (u.hostText?.getD "")
  | redirect {u next : Url} {hops : List Request} {last : Request} {s₁ s₂ : σ} {a : Response} :
      f.allowed.check location = .ok u → Chain (f.request u) s hops last s₁ →
      f.policy.Passes f.redirects hops last → isWeb last.url = true →
      Outside.exchange last s₁ = (.answered a, s₂) → target? last.url a = some next →
      hops.length < f.redirects → f.allowed.admits next = false →
      Rejected f s location (next.hostText?.getD "")

variable {f : Fetching} {s : σ} {location : String} {u : Url} {r : Response} {e : Fault}

/-! ### The check of a location -/

theorem check_eq_ok_iff {l : Allowlist} :
    l.check location = .ok u ↔
      Url.ofText location = .ok u ∧ isWeb u = true ∧ l.admits u = true := by
  simp only [Allowlist.check, isWeb]
  cases hu : Url.ofText location with
  | error why => simp
  | ok v => grind

/-- A location is refused for its host exactly if it can be read and asked for, and its host is
not on the list. -/
theorem check_eq_host_iff {l : Allowlist} {host : String} :
    l.check location = .error (.host host) ↔
      ∃ u, Url.ofText location = .ok u ∧ isWeb u = true ∧ l.admits u = false ∧
        u.hostText?.getD "" = host := by
  simp only [Allowlist.check, isWeb]
  cases hu : Url.ofText location with
  | error why => simp
  | ok v => grind

/-- No fault of a check is reported under a heading. -/
theorem root_of_check {l : Allowlist} (h : l.check location = .error e) : e.root = e := by
  simp only [Allowlist.check] at h
  split at h
  · obtain rfl := Except.error.inj h
    rfl
  · split at h
    · obtain rfl := Except.error.inj h
      rfl
    · split at h
      · cases h
      · obtain rfl := Except.error.inj h
        rfl

/-! ### Running a fetch -/

/-- What a piece makes of the answer to its request. -/
def judge : Except Failure Response → Except Fault Response
  | .error why => .error (faultOf why)
  | .ok r =>
    if 200 ≤ r.status ∧ r.status < 400 then .ok r
    else .error (.fetch ("HTTP " ++ toString r.status ++ " for chunk"))

theorem judge_eq_ok_iff {x : Except Failure Response} :
    judge x = .ok r ↔ x = .ok r ∧ 200 ≤ r.status ∧ r.status < 400 := by
  cases x with
  | error why => simp [judge]
  | ok a => grind [judge]

theorem judge_eq_host_iff {x : Except Failure Response} {host : String} :
    judge x = .error (.host host) ↔
      ∃ next, x = .error (.notAllowed next) ∧ next.hostText?.getD "" = host := by
  cases x with
  | error why => cases why <;> simp [judge, faultOf]
  | ok a => grind [judge]

theorem root_of_judge {x : Except Failure Response} (h : judge x = .error e) : e.root = e := by
  cases x with
  | error why =>
    obtain rfl := Except.error.inj h
    cases why <;> rfl
  | ok a =>
    simp only [judge] at h
    split at h
    · cases h
    · obtain rfl := Except.error.inj h
      rfl

/-- A refused location is not asked for. -/
theorem run_fetch_refused (h : f.allowed.check location = .error e) :
    (f.fetch location).run s = ⟨.error e, [], s⟩ := by
  simp [fetch, h]

/-- An allowed location is asked for under the policy of its list. -/
theorem run_fetch_allowed (h : f.allowed.check location = .ok u) :
    (f.fetch location).run s =
      ⟨judge ((send f.policy f.redirects (f.request u)).run s).value,
        ((send f.policy f.redirects (f.request u)).run s).sent,
        ((send f.policy f.redirects (f.request u)).run s).outside⟩ := by
  simp only [fetch, h, Errand.run_bind, Policy.send, policy]
  cases hx : ((send ⟨f.redirects, f.allowed.admits⟩ f.redirects (f.request u)).run s).value with
  | error why => simp [judge]
  | ok a =>
    simp only [judge]
    split <;> simp

/-- Every request for a piece can be sent, and goes to a host on the list. -/
theorem admits_of_sent {q : Request} (hq : q ∈ ((f.fetch location).run s).sent) :
    isWeb q.url = true ∧ f.allowed.admits q.url = true := by
  cases hu : f.allowed.check location with
  | error e => rw [run_fetch_refused hu] at hq; cases hq
  | ok u =>
    rw [run_fetch_allowed hu] at hq
    obtain ⟨hweb, hallowed⟩ := sent_of_send hq
    refine ⟨hweb, ?_⟩
    rcases hallowed with rfl | hallowed
    · exact (check_eq_ok_iff.mp hu).2.2
    · exact hallowed

/-- A piece arrives exactly if fetching it gives a whole answer. -/
theorem arrives_iff :
    f.Arrives s location r ↔
      ((f.fetch location).run s).value = .ok r ∧ r.isWhole = true := by
  constructor
  · rintro ⟨u, hops, last, s₁, s₂, hu, hchain, hp, hweb, ha, hnext, hlow, hhigh, hwhole⟩
    refine ⟨?_, hwhole⟩
    rw [run_fetch_allowed hu]
    exact judge_eq_ok_iff.mpr ⟨send_eq_ok_iff.mpr ⟨hops, last, s₁, s₂, hchain, hp, hweb, ha, hnext⟩,
      hlow, hhigh⟩
  · rintro ⟨h, hwhole⟩
    cases hu : f.allowed.check location with
    | error e => rw [run_fetch_refused hu] at h; cases h
    | ok u =>
      rw [run_fetch_allowed hu] at h
      obtain ⟨hsend, hlow, hhigh⟩ := judge_eq_ok_iff.mp h
      obtain ⟨hops, last, s₁, s₂, hchain, hp, hweb, ha, hnext⟩ := send_eq_ok_iff.mp hsend
      exact ⟨u, hops, last, s₁, s₂, hu, hchain, hp, hweb, ha, hnext, hlow, hhigh, hwhole⟩

/-- A piece is rejected exactly if fetching it fails for a host. -/
theorem rejected_iff {host : String} :
    f.Rejected s location host ↔ ((f.fetch location).run s).value = .error (.host host) := by
  constructor
  · intro h
    cases h with
    | location hu hweb hallowed =>
      rw [run_fetch_refused (check_eq_host_iff.mpr ⟨_, hu, hweb, hallowed, rfl⟩)]
    | redirect hu hchain hp hweb ha hnext hleft hallowed =>
      rw [run_fetch_allowed hu]
      refine judge_eq_host_iff.mpr ⟨_, send_eq_notAllowed_iff.mpr ?_, rfl⟩
      exact ⟨_, _, _, _, _, hchain, hp, hweb, ha, hnext, hleft, hallowed⟩
  · intro h
    cases hu : f.allowed.check location with
    | error e =>
      rw [run_fetch_refused hu] at h
      obtain rfl := Except.error.inj h
      obtain ⟨u, htext, hweb, hallowed, rfl⟩ := check_eq_host_iff.mp hu
      exact .location htext hweb hallowed
    | ok u =>
      rw [run_fetch_allowed hu] at h
      obtain ⟨next, hsend, rfl⟩ := judge_eq_host_iff.mp h
      obtain ⟨hops, last, s₁, a, s₂, hchain, hp, hweb, ha, hnext, hleft, hallowed⟩ :=
        send_eq_notAllowed_iff.mp hsend
      exact .redirect hu hchain hp hweb ha hnext hleft hallowed

/-- The fault of a piece counts as a rejection exactly if the piece is rejected, and then names the
host. -/
theorem isRejection_of_fetch (h : ((f.fetch location).run s).value = .error e) :
    (isRejection e = true ↔ ∃ host, f.Rejected s location host) ∧
      ∀ host, f.Rejected s location host → e = .host host := by
  -- A fault of fetching stands under no heading, so its root is the fault itself.
  have hroot : e.root = e := by
    cases hu : f.allowed.check location with
    | error e' =>
      rw [run_fetch_refused hu] at h
      obtain rfl := Except.error.inj h
      exact root_of_check hu
    | ok u =>
      rw [run_fetch_allowed hu] at h
      exact root_of_judge h
  simp only [rejected_iff, h, isRejection, hroot, Except.error.injEq, imp_self, implies_true,
    and_true]
  cases e <;> simp

/-! ### Many pieces -/

/-- What the fetching of each piece comes back with, one piece after another. -/
def visits (f : Fetching) : σ → List String → List (Errand.Yield σ (Except Fault Response))
  | _, [] => []
  | s, location :: more =>
    (f.fetch location).run s :: f.visits ((f.fetch location).run s).outside more

theorem length_visits (locations : List String) :
    (f.visits s locations).length = locations.length := by
  induction locations generalizing s with
  | nil => rfl
  | cons location more ih => rw [visits, List.length_cons, List.length_cons, ih]

/-- What lies outside when the piece at a place is fetched. -/
def outsideAt (f : Fetching) (s : σ) (locations : List String) (i : Nat) : σ :=
  (locations.take i).foldl (fun s location => ((f.fetch location).run s).outside) s

theorem getElem?_visits (locations : List String) (i : Nat) :
    (f.visits s locations)[i]? =
      locations[i]?.map fun location => (f.fetch location).run (f.outsideAt s locations i) := by
  induction locations generalizing s i with
  | nil => rfl
  | cons location more ih =>
    cases i with
    | zero => rfl
    | succ i => exact ih i

end Tutor.Speech.Fetching
