import Tutor.Http.Client

/-!
# Chains of redirects

A request may be answered by a redirect, the request that this leads to by another, and so on.
Which requests those are is up to what lies outside alone; a chain tells them without any policy.
Sending a request walks along its chain as far as the policy lets it pass, and then comes to one
of five ends.

* `exists_ending`, `run_send` – how sending a request goes, by its chain and the end of it.
* `send_eq_ok_iff`, `send_eq_notAllowed_iff` – when there is a final answer, and when the policy
  refuses a redirect.
* `sent_of_send` – what kind of request is ever sent.
* `length_sent_send`, `run_send_of_long_chain` – how many are sent, and what becomes of a chain that
  goes on for longer.
-/

namespace Tutor.Http

variable {σ : Type} [Outside σ]

/-- Redirects one after another: the first request and what lies outside before it, the requests
that were redirected, the request that comes next, and what lies outside by then. -/
inductive Chain : Request → σ → List Request → Request → σ → Prop
  | start (r : Request) (s : σ) : Chain r s [] r s
  | hop {r last : Request} {s s₁ s₂ : σ} {hops : List Request} {a : Response} {next : Url} :
      Outside.exchange r s = (.answered a, s₁) → target? r.url a = some next →
      Chain (redirected r a.status next) s₁ hops last s₂ → Chain r s (r :: hops) last s₂

/-- A policy lets a chain pass that follows no more redirects than are left. -/
structure Policy.Passes (p : Policy) (left : Nat) (hops : List Request) (last : Request) :
    Prop where
  web : ∀ q ∈ hops, isWeb q.url = true
  allowed : ∀ q ∈ (hops ++ [last]).tail, p.allows q.url = true
  short : hops.length ≤ left

/-- How the last request of a chain ends, where `left` more redirects would be followed. -/
inductive Policy.Ending (p : Policy) (left : Nat) (last : Request) (s : σ) :
    Errand.Yield σ (Except Failure Response) → Prop
  | unsendable : isWeb last.url = false →
      Ending p left last s ⟨.error (.unsendable "URL scheme is not allowed"), [], s⟩
  | unreachable {why : String} {s₁ : σ} : isWeb last.url = true →
      Outside.exchange last s = (.failed why, s₁) →
      Ending p left last s ⟨.error (.unreachable why), [last], s₁⟩
  | answered {a : Response} {s₁ : σ} : isWeb last.url = true →
      Outside.exchange last s = (.answered a, s₁) → target? last.url a = none →
      Ending p left last s ⟨.ok a, [last], s₁⟩
  | exhausted {a : Response} {s₁ : σ} {next : Url} : isWeb last.url = true →
      Outside.exchange last s = (.answered a, s₁) → target? last.url a = some next → left = 0 →
      Ending p left last s ⟨.error (.tooManyRedirects p.limit), [last], s₁⟩
  | notAllowed {a : Response} {s₁ : σ} {next : Url} : isWeb last.url = true →
      Outside.exchange last s = (.answered a, s₁) → target? last.url a = some next → 0 < left →
      p.allows next = false → Ending p left last s ⟨.error (.notAllowed next), [last], s₁⟩

variable {p : Policy} {left : Nat} {r last : Request} {s s₁ : σ} {hops : List Request}
  {y : Errand.Yield σ (Except Failure Response)} {a : Response} {next : Url}

/-! ### One request -/

/-- A redirect that the policy allows is followed. -/
theorem send_hop (hweb : isWeb r.url = true) (ha : Outside.exchange r s = (.answered a, s₁))
    (hnext : target? r.url a = some next) (hallowed : p.allows next = true) :
    (send p (left + 1) r).run s =
      ⟨((send p left (redirected r a.status next)).run s₁).value,
        r :: ((send p left (redirected r a.status next)).run s₁).sent,
        ((send p left (redirected r a.status next)).run s₁).outside⟩ := by
  rw [send]
  simp [hweb, Errand.exchange, ha, hnext, hallowed]

/-- At its end a chain sends one request more, or none. -/
theorem run_send_of_ending (h : p.Ending left r s y) : (send p left r).run s = y := by
  rw [send.eq_def]
  cases h with
  | unsendable hweb => simp [hweb]
  | unreachable hweb hwhy => simp [hweb, Errand.exchange, hwhy]
  | answered hweb ha hnext => simp [hweb, Errand.exchange, ha, hnext]
  | exhausted hweb ha hnext hleft => simp [hweb, Errand.exchange, ha, hnext, hleft]
  | notAllowed hweb ha hnext hleft hallowed =>
    obtain ⟨n, rfl⟩ := Nat.exists_eq_succ_of_ne_zero (Nat.ne_of_gt hleft)
    simp [hweb, Errand.exchange, ha, hnext, hallowed]

/-- A request is the end of its chain, or is redirected to where the policy allows. -/
theorem ending_or_hop (p : Policy) (left : Nat) (r : Request) (s : σ) :
    (∃ y, p.Ending left r s y) ∨
      ∃ a s₁ next, isWeb r.url = true ∧ Outside.exchange r s = (.answered a, s₁) ∧
        target? r.url a = some next ∧ 0 < left ∧ p.allows next = true := by
  cases hweb : isWeb r.url with
  | false => exact .inl ⟨_, .unsendable hweb⟩
  | true =>
    rcases ha : Outside.exchange r s with ⟨why | a, s₁⟩
    · exact .inl ⟨_, .unreachable hweb ha⟩
    · cases hnext : target? r.url a with
      | none => exact .inl ⟨_, .answered hweb ha hnext⟩
      | some next =>
        rcases Nat.eq_zero_or_pos left with hleft | hleft
        · exact .inl ⟨_, .exhausted hweb ha hnext hleft⟩
        · cases hallowed : p.allows next with
          | false => exact .inl ⟨_, .notAllowed hweb ha hnext hleft hallowed⟩
          | true => exact .inr ⟨a, s₁, next, rfl, rfl, hnext, hleft, hallowed⟩

/-- A request that can be sent is the first that is. -/
theorem exists_sent_eq_cons (p : Policy) (left : Nat) (s : σ) (hweb : isWeb r.url = true) :
    ∃ more, ((send p left r).run s).sent = r :: more := by
  rcases ending_or_hop p left r s with ⟨y, hend⟩ | ⟨a, s₁, next, -, ha, hnext, hleft, hallowed⟩
  · rw [run_send_of_ending hend]
    cases hend with
    | unsendable hunsendable => cases hweb.symm.trans hunsendable
    | _ => exact ⟨[], rfl⟩
  · obtain ⟨n, rfl⟩ := Nat.exists_eq_succ_of_ne_zero (Nat.ne_of_gt hleft)
    rw [send_hop hweb ha hnext hallowed]
    exact ⟨_, rfl⟩

/-! ### Whole chains -/

theorem Chain.eq_cons (h : Chain r s hops last s₁) :
    hops ++ [last] = r :: (hops ++ [last]).tail := by
  cases h <;> rfl

/-- Sending a request walks along every chain that the policy lets pass. -/
theorem run_send_of_chain (h : Chain r s hops last s₁) (hp : p.Passes left hops last) :
    (send p left r).run s =
      ⟨((send p (left - hops.length) last).run s₁).value,
        hops ++ ((send p (left - hops.length) last).run s₁).sent,
        ((send p (left - hops.length) last).run s₁).outside⟩ := by
  induction h generalizing left with
  | start r s => rfl
  | @hop r last s s₁ s₂ hops a next ha hnext hchain ih =>
    -- The request that the redirect leads to is not the first of the chain, so it is allowed.
    have hallowed : p.allows next = true := by
      refine hp.allowed (redirected r a.status next) ?_
      rw [List.cons_append, List.tail_cons, hchain.eq_cons]
      exact List.mem_cons_self
    obtain ⟨n, rfl⟩ := Nat.exists_eq_add_of_le' hp.short
    have hrest : p.Passes (n + hops.length) hops last :=
      ⟨fun q hq => hp.web q (List.mem_cons_of_mem _ hq),
        fun q hq => hp.allowed q (List.mem_of_mem_tail hq), Nat.le_add_left _ _⟩
    rw [List.length_cons, ← Nat.add_assoc, send_hop (hp.web r List.mem_cons_self) ha hnext hallowed,
      ih hrest]
    simp [Nat.add_assoc]

/-- How sending a request goes, by its chain and the end of it. -/
theorem run_send (h : Chain r s hops last s₁) (hp : p.Passes left hops last)
    (hend : p.Ending (left - hops.length) last s₁ y) :
    (send p left r).run s = ⟨y.value, hops ++ y.sent, y.outside⟩ := by
  rw [run_send_of_chain h hp, run_send_of_ending hend]

/-- Every request comes to the end of a chain that the policy lets pass. By induction on the
redirects left: each that is followed takes one. -/
theorem exists_ending (p : Policy) (left : Nat) (r : Request) (s : σ) :
    ∃ hops last s₁ y, Chain r s hops last s₁ ∧ p.Passes left hops last ∧
      p.Ending (left - hops.length) last s₁ y := by
  induction left generalizing r s with
  | zero =>
    rcases ending_or_hop p 0 r s with ⟨y, hend⟩ | ⟨a, s₁, next, -, -, -, hleft, -⟩
    · exact ⟨[], r, s, y, .start r s, ⟨by simp, by simp, Nat.le_refl 0⟩, hend⟩
    · exact absurd hleft (Nat.lt_irrefl 0)
  | succ left ih =>
    rcases ending_or_hop p (left + 1) r s with
      ⟨y, hend⟩ | ⟨a, s₁, next, hweb, ha, hnext, -, hallowed⟩
    · exact ⟨[], r, s, y, .start r s, ⟨by simp, by simp, Nat.zero_le _⟩, hend⟩
    · -- One redirect is used up; the rest of the chain is that of the redirected request.
      obtain ⟨hops, last, s₂, y, hchain, hp, hend⟩ := ih (redirected r a.status next) s₁
      refine ⟨r :: hops, last, s₂, y, .hop ha hnext hchain, ⟨?_, ?_, ?_⟩, ?_⟩
      · intro q hq
        rcases List.mem_cons.mp hq with rfl | hq
        · exact hweb
        · exact hp.web q hq
      · intro q hq
        rw [List.cons_append, List.tail_cons, hchain.eq_cons] at hq
        rcases List.mem_cons.mp hq with rfl | hq
        · exact hallowed
        · exact hp.allowed q hq
      · simpa using hp.short
      · simpa using hend

/-! ### What is sent, and what comes of it -/

/-- Every request that is sent can be sent, and the policy allows all but the first. -/
theorem sent_of_send {q : Request} (hq : q ∈ ((send p left r).run s).sent) :
    isWeb q.url = true ∧ (q = r ∨ p.allows q.url = true) := by
  obtain ⟨hops, last, s₁, y, hchain, hp, hend⟩ := exists_ending p left r s
  rw [run_send hchain hp hend] at hq
  have hlast : ∀ q ∈ y.sent, q = last ∧ isWeb last.url = true := by
    cases hend <;> simp_all
  have hmem : q ∈ hops ++ [last] := by
    rcases List.mem_append.mp hq with hq | hq
    · exact List.mem_append_left _ hq
    · exact List.mem_append_right _ (List.mem_singleton.mpr (hlast q hq).1)
  constructor
  · rcases List.mem_append.mp hq with hq | hq
    · exact hp.web q hq
    · obtain ⟨rfl, hweb⟩ := hlast q hq
      exact hweb
  · rw [hchain.eq_cons] at hmem
    exact (List.mem_cons.mp hmem).imp_right (hp.allowed q)

/-- A request gets an answer exactly if a chain that the policy lets pass ends with it. -/
theorem send_eq_ok_iff :
    ((send p left r).run s).value = .ok a ↔
      ∃ hops last s₁ s₂, Chain r s hops last s₁ ∧ p.Passes left hops last ∧
        isWeb last.url = true ∧ Outside.exchange last s₁ = (.answered a, s₂) ∧
        target? last.url a = none := by
  constructor
  · intro h
    obtain ⟨hops, last, s₁, y, hchain, hp, hend⟩ := exists_ending p left r s
    rw [run_send hchain hp hend] at h
    cases hend with
    | answered hweb ha hnext =>
      obtain rfl := Except.ok.inj h
      exact ⟨hops, last, s₁, _, hchain, hp, hweb, ha, hnext⟩
    | _ => cases h
  · rintro ⟨hops, last, s₁, s₂, hchain, hp, hweb, ha, hnext⟩
    rw [run_send hchain hp (.answered hweb ha hnext)]

/-- A redirect is refused exactly if a chain that the policy lets pass, with a redirect left,
leads to where the policy does not allow. -/
theorem send_eq_notAllowed_iff :
    ((send p left r).run s).value = .error (.notAllowed next) ↔
      ∃ hops last s₁ a s₂, Chain r s hops last s₁ ∧ p.Passes left hops last ∧
        isWeb last.url = true ∧ Outside.exchange last s₁ = (.answered a, s₂) ∧
        target? last.url a = some next ∧ hops.length < left ∧ p.allows next = false := by
  constructor
  · intro h
    obtain ⟨hops, last, s₁, y, hchain, hp, hend⟩ := exists_ending p left r s
    rw [run_send hchain hp hend] at h
    cases hend with
    | notAllowed hweb ha hnext hleft hallowed =>
      obtain rfl := Failure.notAllowed.inj (Except.error.inj h)
      exact ⟨hops, last, s₁, _, _, hchain, hp, hweb, ha, hnext, by omega, hallowed⟩
    | _ => cases h
  · rintro ⟨hops, last, s₁, a, s₂, hchain, hp, hweb, ha, hnext, hleft, hallowed⟩
    rw [run_send hchain hp (.notAllowed hweb ha hnext (by omega) hallowed)]

/-! ### How many requests are sent -/

theorem length_sent_of_ending (h : p.Ending left last s y) : y.sent.length ≤ 1 := by
  cases h <;> simp

/-- Sending a request takes at most one request more than there are redirects left. -/
theorem length_sent_send (p : Policy) (left : Nat) (r : Request) (s : σ) :
    ((send p left r).run s).sent.length ≤ left + 1 := by
  obtain ⟨hops, last, s₁, y, hchain, hp, hend⟩ := exists_ending p left r s
  rw [run_send hchain hp hend, List.length_append]
  exact Nat.add_le_add hp.short (length_sent_of_ending hend)

/-- A chain that goes on for longer than there are redirects left is broken off, even if the policy
allows all of it: what is sent is its first requests, one more than the redirects. By induction on
the chain. -/
theorem run_send_of_long_chain (h : Chain r s hops last s₁) (hweb : ∀ q ∈ hops, isWeb q.url = true)
    (hallowed : ∀ q ∈ (hops ++ [last]).tail, p.allows q.url = true) (hlong : left < hops.length) :
    ((send p left r).run s).value = .error (.tooManyRedirects p.limit) ∧
      ((send p left r).run s).sent = hops.take (left + 1) := by
  induction h generalizing left with
  | start r s => cases hlong
  | @hop r last s s₁ s₂ hops a next ha hnext hchain ih =>
    have hr : isWeb r.url = true := hweb r List.mem_cons_self
    cases left with
    | zero =>
      rw [run_send_of_ending (.exhausted hr ha hnext rfl)]
      exact ⟨rfl, rfl⟩
    | succ left =>
      rw [List.cons_append, List.tail_cons, hchain.eq_cons] at hallowed
      obtain ⟨hfirst, hrest⟩ := List.forall_mem_cons.mp hallowed
      obtain ⟨hvalue, hsent⟩ :=
        ih (fun q hq => hweb q (List.mem_cons_of_mem _ hq)) hrest (Nat.lt_of_succ_lt_succ hlong)
      rw [send_hop hr ha hnext hfirst]
      exact ⟨hvalue, by rw [hsent, List.take_succ_cons]⟩

end Tutor.Http
