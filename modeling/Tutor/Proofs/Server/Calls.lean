import Tutor.Proofs.Server.Clearing
import Tutor.Proofs.Server.Refusing

/-!
# Requests as calls

Behind the routes of a server stands a service. A request comes to one call of the service or to
none: if it comes to a call, its answer tells what the call returns, and otherwise nothing happens.
So whatever is sent to a server, the world goes the way of the calls that the requests come to.

* `callOf?` – the call that a request comes to.
* `tell`, `run_answer_of_call`, `world_answer_of_no_call` – one request.
* `Site.after`, `after_eq` – any number of them.
-/

namespace Tutor.Server

open Tutor.Http Tutor.Json Tutor.Text

/-! ### The call of a request -/

/-- The call of a request on a route, by a method that the route takes. -/
def Route.call? (r : Request) : Route → Option Ask.Step
  | .ask =>
    match bodyOf r Ask.Request.ofTree with
    | .ok q => some (.ask q (.ofHeader r.header))
    | .error _ => none
  | .history =>
    match sessionOfQuery r.query with
    | .ok session => some (.history session)
    | .error () => none
  | .clear => some (.forget (meant r))
  | .health => none

/-- The call that a request comes to, if it comes to one. -/
def callOf? (r : Request) : Option Ask.Step :=
  match Route.ofPath? r.path with
  | some route => if route.methods.contains r.method then route.call? r else none
  | none => none

/-- What is told of a call. -/
def tell : Ask.Result → Response
  | .asked (.ok reply) => json 200 (replyValue reply)
  | .asked (.error e) => (Refusal.ofFault e).response
  | .turns turns => json 200 (historyValue turns)
  | .forgotten => acknowledged

variable {σ : Type} [Outside σ] {site : Site σ} {r : Request} {w : World σ} {step : Ask.Step}

theorem run_onRoute_of_call {route : Route} (h : route.call? r = some step) :
    StateT.run (site.onRoute r route) w =
      (tell (StateT.run (site.service.perform step) w).1,
        (StateT.run (site.service.perform step) w).2) := by
  cases route with
  | ask =>
    rw [Route.call?] at h
    split at h
    next q hread =>
      obtain rfl := Option.some.inj h
      show StateT.run (ask site.service r) w = _
      rw [run_ask_read hread, site.service.run_perform_ask]
      cases (StateT.run (site.service.ask q (.ofHeader r.header)) w).1 with
      | error e => rfl
      | ok reply => rfl
    next => cases h
  | history =>
    rw [Route.call?] at h
    split at h
    next session hread =>
      obtain rfl := Option.some.inj h
      show StateT.run (history r) w = _
      rw [history, hread]
      rfl
    next => cases h
  | clear =>
    obtain rfl := Option.some.inj h
    rfl
  | health => cases h

theorem world_onRoute_of_no_call {route : Route} (h : route.call? r = none) :
    (StateT.run (site.onRoute r route) w).2 = w := by
  cases route with
  | ask =>
    rw [Route.call?] at h
    split at h
    next => cases h
    next hread =>
      show (StateT.run (ask site.service r) w).2 = w
      rw [run_ask_unread hread]
  | history =>
    rw [Route.call?] at h
    split at h
    next => cases h
    next hread =>
      show (StateT.run (history r) w).2 = w
      rw [history, hread]
      rfl
  | clear => cases h
  | health => rfl

/-! ### One request -/

/-- A response as it is sent for a request. -/
def sentFor (r : Request) (response : Response) : Response :=
  { shared response with body := if r.method == "HEAD" then [] else response.body }

theorem run_answer (site : Site σ) (r : Request) (w : World σ) :
    StateT.run (site.answer r) w =
      (sentFor r (StateT.run (site.dispatch r) w).1, (StateT.run (site.dispatch r) w).2) := rfl

/-- The answer to a request tells what its call returns. -/
theorem run_answer_of_call (h : callOf? r = some step) :
    StateT.run (site.answer r) w =
      (sentFor r (tell (StateT.run (site.service.perform step) w).1),
        (StateT.run (site.service.perform step) w).2) := by
  rw [callOf?] at h
  cases hroute : Route.ofPath? r.path with
  | none =>
    rw [hroute] at h
    cases h
  | some route =>
    rw [hroute] at h
    dsimp only at h
    split at h
    next hmethod =>
      have hdispatch : site.dispatch r = site.onRoute r route := by
        simp only [Site.dispatch, hroute, hmethod, if_true]
      rw [run_answer, hdispatch, run_onRoute_of_call h]
    next => cases h

omit [Outside σ] in
theorem world_elsewhere (site : Site σ) (r : Request) (w : World σ) :
    (StateT.run (site.elsewhere r) w).2 = w := by
  have hfolder : ∀ folder get, (StateT.run (serveFolder (σ := σ) folder get) w).2 = w := by
    intro folder get
    rw [serveFolder]
    split
    · rfl
    · rfl
  rw [Site.elsewhere]
  split
  · exact hfolder _ _
  · rfl

/-- A request that comes to no call leaves everything as it was. -/
theorem world_answer_of_no_call (h : callOf? r = none) :
    (StateT.run (site.answer r) w).2 = w := by
  show (StateT.run (site.dispatch r) w).2 = w
  cases hroute : Route.ofPath? r.path with
  | none =>
    simp only [Site.dispatch, hroute]
    split
    · rfl
    · exact world_elsewhere site r w
  | some route =>
    simp only [callOf?, hroute] at h
    simp only [Site.dispatch, hroute]
    by_cases hmethod : route.methods.contains r.method = true
    · rw [if_pos hmethod] at h ⊢
      exact world_onRoute_of_no_call h
    · rw [if_neg hmethod]
      split
      · rfl
      · rfl

/-! ### All requests -/

/-- The world after requests. -/
def Site.after (site : Site σ) (rs : List Request) (w : World σ) : World σ :=
  rs.foldl (fun w r => (StateT.run (site.answer r) w).2) w

/-- After requests, the world is as after the calls that they come to. -/
theorem after_eq (site : Site σ) (rs : List Request) (w : World σ) :
    site.after rs w = site.service.after (rs.filterMap callOf?) w := by
  induction rs generalizing w with
  | nil => rfl
  | cons r rs ih =>
    show site.after rs (StateT.run (site.answer r) w).2 = _
    rw [ih]
    cases hcall : callOf? r with
    | none => rw [List.filterMap_cons_none hcall, world_answer_of_no_call hcall]
    | some step =>
      rw [List.filterMap_cons_some hcall, run_answer_of_call hcall]
      rfl

end Tutor.Server
