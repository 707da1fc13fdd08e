import Tutor.Proofs.Http.Target
import Tutor.Proofs.Speech.Ending
import Tutor.World.Replay

/-!
# How far redirects are followed

What lies outside may redirect as often as it likes, in circles too. A piece takes no more requests
than the redirects that are followed and one, so an assembly takes at most so many for each of its
locations. A chain of allowed redirects is followed to its end exactly if it is no longer than that.

* `Walked`, `walked_iff` – the requests that a location takes, as a chain of its own.
* `length_sent_fetch`, `length_sent_visits` – how many they are, for one piece and for many.
* `Leads`, `Leads.arrives`, `Leads.run_fetch_of_long` – chains up to the limit, and past it.
* `followed_assemble` – what an assembly asks for and writes.
-/

namespace Tutor.Speech.Fetching

open Tutor.Http

variable {σ : Type} [Outside σ]

/-! ### The chain of a location -/

/-- The requests that a location takes: none if it may not be fetched from, and otherwise the chain
of redirects from it on, as far as the policy lets it pass. -/
inductive Walked (f : Fetching) (s : σ) (location : String) : List Request → Prop
  | refused {e : Fault} : f.allowed.check location = .error e → Walked f s location []
  | asked {u : Url} {hops : List Request} {last : Request} {s₁ : σ}
      {y : Errand.Yield σ (Except Failure Response)} : f.allowed.check location = .ok u →
      Chain (f.request u) s hops last s₁ → f.policy.Passes f.redirects hops last →
      f.policy.Ending (f.redirects - hops.length) last s₁ y → Walked f s location (hops ++ y.sent)

variable {f : Fetching} {s s₁ : σ} {location : String} {u : Url} {hops sent : List Request}
  {last : Request}

/-- There is one such list of requests, that of fetching the piece. -/
theorem walked_iff : f.Walked s location sent ↔ sent = ((f.fetch location).run s).sent := by
  constructor
  · intro h
    cases h with
    | refused hcheck => rw [run_fetch_refused hcheck]
    | asked hcheck hchain hp hend => rw [run_fetch_allowed hcheck, run_send hchain hp hend]
  · rintro rfl
    cases hcheck : f.allowed.check location with
    | error e =>
      rw [run_fetch_refused hcheck]
      exact .refused hcheck
    | ok u =>
      obtain ⟨hops, last, s₁, y, hchain, hp, hend⟩ :=
        exists_ending f.policy f.redirects (f.request u) s
      rw [run_fetch_allowed hcheck, run_send hchain hp hend]
      exact .asked hcheck hchain hp hend

/-! ### How many requests there are -/

/-- Fetching a piece takes at most one request more than redirects are followed. -/
theorem length_sent_fetch (f : Fetching) (s : σ) (location : String) :
    ((f.fetch location).run s).sent.length ≤ f.redirects + 1 := by
  cases hcheck : f.allowed.check location with
  | error e =>
    rw [run_fetch_refused hcheck]
    exact Nat.zero_le _
  | ok u =>
    rw [run_fetch_allowed hcheck]
    exact length_sent_send f.policy f.redirects (f.request u) s

/-- Fetching many pieces takes at most so many for each. By induction on the locations. -/
theorem length_sent_visits (f : Fetching) (s : σ) (locations : List String) :
    ((f.visits s locations).flatMap Errand.Yield.sent).length ≤
      locations.length * (f.redirects + 1) := by
  induction locations generalizing s with
  | nil => exact Nat.zero_le _
  | cons location more ih =>
    rw [visits, List.flatMap_cons, List.length_append, List.length_cons, Nat.succ_mul, Nat.add_comm]
    exact Nat.add_le_add (ih _) (length_sent_fetch f s location)

/-! ### Chains of allowed redirects -/

/-- A location leads along a chain of redirects to a last request, and the hosts of all of them are
allowed and can be asked. -/
structure Leads (f : Fetching) (s : σ) (location : String) (hops : List Request) (last : Request)
    (s₁ : σ) : Prop where
  chain : ∃ u, f.allowed.check location = .ok u ∧ Chain (f.request u) s hops last s₁
  web : ∀ q ∈ hops ++ [last], isWeb q.url = true
  allowed : ∀ q ∈ hops ++ [last], f.allowed.admits q.url = true

/-- A request is answered for good, with a status that counts as success, and the answer does not
break off. -/
def AnsweredWhole (last : Request) (s : σ) (r : Response) : Prop :=
  ∃ s', Outside.exchange last s = (.answered r, s') ∧ target? last.url r = none ∧
    200 ≤ r.status ∧ r.status < 400 ∧ r.isWhole = true

/-- Up to the limit, the piece at the end of the chain arrives. -/
theorem Leads.arrives {r : Response} (h : f.Leads s location hops last s₁)
    (hshort : hops.length ≤ f.redirects) (ha : AnsweredWhole last s₁ r) :
    f.Arrives s location r := by
  obtain ⟨u, hcheck, hchain⟩ := h.chain
  obtain ⟨s₂, hanswer, hfinal, hlow, hhigh, hwhole⟩ := ha
  have hp : f.policy.Passes f.redirects hops last :=
    ⟨fun q hq => h.web q (List.mem_append_left _ hq),
      fun q hq => h.allowed q (List.mem_of_mem_tail hq), hshort⟩
  have hlast : isWeb last.url = true :=
    h.web last (List.mem_append_right _ (List.mem_singleton_self last))
  exact ⟨u, hops, last, s₁, s₂, hcheck, hchain, hp, hlast, hanswer, hfinal, hlow, hhigh, hwhole⟩

/-- Past the limit the chain is broken off, however it would have gone on. -/
theorem Leads.run_fetch_of_long (h : f.Leads s location hops last s₁)
    (hlong : f.redirects < hops.length) :
    ((f.fetch location).run s).value = .error (faultOf (.tooManyRedirects f.redirects)) ∧
      ((f.fetch location).run s).sent = hops.take (f.redirects + 1) := by
  obtain ⟨u, hcheck, hchain⟩ := h.chain
  obtain ⟨hvalue, hsent⟩ := run_send_of_long_chain (p := f.policy) hchain
    (fun q hq => h.web q (List.mem_append_left _ hq))
    (fun q hq => h.allowed q (List.mem_of_mem_tail hq)) hlong
  rw [run_fetch_allowed hcheck]
  exact ⟨congrArg judge hvalue, hsent⟩

/-! ### Whole assemblies -/

variable {destination : Path} {locations : List String} {w w' : World σ} {n i : Nat}
  {report : Report}

/-- What an assembly asks for and writes: its result, and the world afterwards. -/
structure Followed (f : Fetching) (locations : List String) (destination : Path) (w : World σ)
    (result : Except Fault Report) (w' : World σ) : Prop where
  /-- There is a report exactly if the destination can be prepared. -/
  reported : (∃ report, result = .ok report) ↔ Preparable destination w.disk
  /-- The requests are the chains of the locations, in order, each of them as what lies outside
  presents it after the ones before; none, if there is no report. -/
  chains : ∃ chains : List (List Request), w'.requests = w.requests ++
      (match result with
        | .ok _ => chains.flatten
        | .error _ => []) ∧
    chains.length = locations.length ∧
    ∀ i location, locations[i]? = some location →
      ∃ sent, chains[i]? = some sent ∧ f.Walked (f.outsideAt w.outside locations i) location sent ∧
        sent.length ≤ f.redirects + 1
  /-- A chain goes on where an answer redirects, and ends where it does not. -/
  redirects : ∀ start answer next, target? start answer = some next ↔ Redirects start answer next
  /-- There are no more than the redirects that are followed and one for each location. -/
  few : ∃ sent, w'.requests = w.requests ++ sent ∧
    sent.length ≤ locations.length * (f.redirects + 1)
  /-- The file holds the bodies of the pieces written, and no byte of another. -/
  bytes : ∀ report, result = .ok report → ∃ answers : List Response,
    List.Forall₂
      (fun i r => ∃ location, locations[i]? = some location ∧
        f.Arrives (f.outsideAt w.outside locations i) location r)
      report.written answers ∧
    w'.disk.bytesAt destination = answers.flatMap Response.body ∧
    report.bytes = (answers.flatMap Response.body).length
  /-- A location that leads, in no more redirects than are followed, to a whole answer is written,
  unless the path asks for a folder. -/
  within : ∀ report, result = .ok report →
    destination.isFolder = false → destination.isEmpty = false →
    ∀ i location hops last s₁ r, locations[i]? = some location →
      f.Leads (f.outsideAt w.outside locations i) location hops last s₁ →
      AnsweredWhole last s₁ r → hops.length ≤ f.redirects → i ∈ report.written
  /-- One that leads through more redirects is passed over, and not as one that is rejected. -/
  past : ∀ report, result = .ok report →
    ∀ i location hops last s₁, locations[i]? = some location →
      f.Leads (f.outsideAt w.outside locations i) location hops last s₁ →
      f.redirects < hops.length →
      i ∉ report.written ∧ ∃ m ∈ report.missing, m.index = i ∧ m.location = location ∧
        m.rejected = false ∧ m.reason = (faultOf (.tooManyRedirects f.redirects)).message

/-- The requests of pieces fetched one after another are their chains. -/
theorem chains_visits (f : Fetching) (s : σ) (locations : List String) :
    ∃ chains : List (List Request),
      (f.visits s locations).flatMap Errand.Yield.sent = chains.flatten ∧
      chains.length = locations.length ∧
      ∀ i location, locations[i]? = some location →
        ∃ sent, chains[i]? = some sent ∧ f.Walked (f.outsideAt s locations i) location sent ∧
          sent.length ≤ f.redirects + 1 := by
  refine ⟨(f.visits s locations).map Errand.Yield.sent, List.flatMap_def, ?_, ?_⟩
  · rw [List.length_map, length_visits]
  · intro i location hlocation
    refine ⟨_, ?_, walked_iff.mpr rfl, length_sent_fetch _ _ _⟩
    rw [List.getElem?_map, getElem?_visits, hlocation]
    rfl

/-- The pieces written arrived, and the file and the report count their bodies. -/
theorem Progress.bytes (h : Progress f destination locations w n report w') :
    ∃ answers : List Response,
      List.Forall₂
        (fun i r => ∃ location, locations[i]? = some location ∧
          f.Arrives (f.outsideAt w.outside locations i) location r)
        report.written answers ∧
      w'.disk.bytesAt destination = answers.flatMap Response.body ∧
      report.bytes = (answers.flatMap Response.body).length := by
  obtain ⟨answers, hanswers, hbytes, hlength, -⟩ := h.file
  refine ⟨answers, hanswers.imp fun i r => ?_, hbytes, hlength⟩
  rintro ⟨y, hy, hvalue, hwhole⟩
  rw [getElem?_visits, Option.map_eq_some_iff] at hy
  obtain ⟨location, hlocation, rfl⟩ := hy
  exact ⟨location, hlocation, arrives_iff.mpr ⟨hvalue, hwhole⟩⟩

/-- A piece whose chain of allowed redirects is too long is passed over for just that. -/
theorem Progress.past (h : Progress f destination locations w locations.length report w')
    (hlocation : locations[i]? = some location)
    (hleads : f.Leads (f.outsideAt w.outside locations i) location hops last s₁)
    (hlong : f.redirects < hops.length) :
    i ∉ report.written ∧ ∃ m ∈ report.missing, m.index = i ∧ m.location = location ∧
      m.rejected = false ∧ m.reason = (faultOf (.tooManyRedirects f.redirects)).message := by
  obtain ⟨hvalue, -⟩ := hleads.run_fetch_of_long hlong
  have hvisit : (f.visits w.outside locations)[i]? =
      some ((f.fetch location).run (f.outsideAt w.outside locations i)) := by
    rw [getElem?_visits, hlocation, Option.map_some]
  have hunwritten : i ∉ report.written := by
    intro hi
    obtain ⟨answers, hanswers, -⟩ := h.bytes
    obtain ⟨j, hj, rfl⟩ := List.getElem_of_mem hi
    obtain ⟨location', hlocation', harrives⟩ := hanswers.get hj (hanswers.length_eq ▸ hj)
    obtain rfl := Option.some.inj (hlocation.symm.trans hlocation')
    cases hvalue.symm.trans (arrives_iff.mp harrives).1
  refine ⟨hunwritten, ?_⟩
  -- Every piece was written or passed over.
  have hi : i < locations.length := (List.getElem?_eq_some_iff.mp hlocation).1
  obtain ⟨m, hm, rfl⟩ := List.mem_map.mp (((h.settled i).mp hi).resolve_left hunwritten)
  obtain ⟨y, e, hy, hplace, hreason, hrejected, hfault⟩ := h.missing m hm
  obtain rfl := Option.some.inj (hvisit.symm.trans hy)
  rcases hfault with he | ⟨⟨r, hr⟩, -⟩
  · obtain rfl := Except.error.inj (hvalue.symm.trans he)
    exact ⟨m, hm, rfl, Option.some.inj (hplace.symm.trans hlocation), hrejected, hreason⟩
  · cases hvalue.symm.trans hr

/-- Whatever lies outside and however it redirects, an assembly follows the redirects of each
location up to the limit. -/
theorem followed_assemble (f : Fetching) (locations : List String) (destination : Path)
    (w : World σ) :
    f.Followed locations destination w (StateT.run (f.assemble locations destination) w).1
      (StateT.run (f.assemble locations destination) w).2 := by
  obtain ⟨chains, hflat, hlength, hchains⟩ := chains_visits f w.outside locations
  cases hcleared : cleared destination w.disk with
  | error why =>
    obtain ⟨d', hrun, -⟩ := run_assemble_unprepared f locations hcleared
    rw [hrun]
    have hnone : World.requests { w with disk := d' } = w.requests ++ [] := (List.append_nil _).symm
    exact
      { reported := iff_of_false (by rintro ⟨_, h⟩; cases h) (not_preparable hcleared)
        chains := ⟨chains, hnone, hlength, hchains⟩
        redirects := fun _ _ _ => target?_eq_some_iff
        few := ⟨[], hnone, Nat.zero_le _⟩
        bytes := fun report h => by cases h
        within := fun report h => by cases h
        past := fun report h => by cases h }
  | ok d₀ =>
    obtain ⟨report, w₁, d', -, hprepared, hall, hkept, hremoved, hrun⟩ :=
      run_assemble_prepared (f := f) locations (run_prepare_ok hcleared)
    rw [hrun]
    have hrequests := hall.requests
    rw [List.take_of_length_le (Nat.le_of_eq (length_visits locations))] at hrequests
    obtain ⟨answers, hanswers, hbytes, hcount⟩ := hall.bytes
    exact
      { reported := iff_of_true ⟨report, rfl⟩ ⟨d₀, hcleared⟩
        chains := ⟨chains, hflat ▸ hrequests, hlength, hchains⟩
        redirects := fun _ _ _ => target?_eq_some_iff
        few := ⟨_, hrequests, length_sent_visits f w.outside locations⟩
        bytes := fun report' h => by
          obtain rfl := Except.ok.inj h
          refine ⟨answers, hanswers, ?_, hcount⟩
          cases hwritten : report.written with
          | nil =>
            -- Nothing was written, so the file is gone and was empty.
            rw [Disk.bytesAt_of_missing (Disk.contents_of_removeFile (hremoved hwritten))]
            rw [hwritten] at hanswers
            cases hanswers
            rfl
          | cons i more =>
            obtain rfl := hkept (by simp [hwritten])
            exact hbytes
        within := fun report' h hfile hpath i location _ _ _ r hlocation hleads ha hshort => by
          obtain rfl := Except.ok.inj h
          refine (hall.mem_written_iff (hprepared.opens hfile hpath) i).mpr ?_
          exact ⟨location, r, hlocation, hleads.arrives hshort ha⟩
        past := fun report' h i location hops last s₁ hlocation hleads hlong => by
          obtain rfl := Except.ok.inj h
          exact hall.past hlocation hleads hlong }

/-- A location that redirects once is written where one redirect is followed. Where none is, it is
passed over, but not rejected. -/
theorem followed_once :
    let once : Fetching := ⟨.ofEntries ["a.b"], 1000, 1⟩
    let never : Fetching := ⟨.ofEntries ["a.b"], 1000, 0⟩
    let destination : Path := ⟨false, ["lesson.mp3"], false, false⟩
    let w : World Replay :=
      { outside :=
          ⟨[.exchanged (.answered ⟨302, [field "location" "/end"], [], true⟩),
            .exchanged (.answered ⟨200, [], [7], true⟩)], none⟩ }
    let after (f : Fetching) := StateT.run (f.assemble ["http://a.b/start"] destination) w
    (∃ report, (after once).1 = .ok report ∧ 0 ∈ report.written) ∧
      ∃ report, (after never).1 = .ok report ∧ 0 ∉ report.written ∧
        ∃ m ∈ report.missing, m.index = 0 ∧ m.rejected = false := by
  intro once never destination w after
  let start : Url := { scheme := "http", host := some (.name "a.b"), path := .segments ["start"] }
  let next : Url := { start with path := .segments ["end"] }
  have hprepared : Preparable destination w.disk :=
    preparable_name rfl rfl (by decide) (by decide +kernel) (by decide +kernel)
      (by simp [w, Disk.at?])
  have htarget : target? start ⟨302, [field "location" "/end"], [], true⟩ = some next := by
    decide +kernel
  -- The chain is the same whatever the limit.
  have hleads : ∀ f : Fetching, f.allowed = .ofEntries ["a.b"] →
      f.Leads w.outside "http://a.b/start" [f.request start]
        (redirected (f.request start) 302 next)
        ⟨[.exchanged (.answered ⟨200, [], [7], true⟩)], none⟩ := by
    intro f hallowed
    refine ⟨⟨start, ?_, .hop rfl htarget (.start _ _)⟩, ?_, ?_⟩
    · rw [hallowed]
      decide +kernel
    · simp [request, redirected, isWeb, start, next]
    · have hboth : (Allowlist.ofEntries ["a.b"]).admits start = true ∧
          (Allowlist.ofEntries ["a.b"]).admits next = true := by decide +kernel
      rw [hallowed]
      simpa [request, redirected] using hboth
  constructor
  · have hfollowed := followed_assemble once ["http://a.b/start"] destination w
    obtain ⟨report, hreport⟩ := hfollowed.reported.mpr hprepared
    refine ⟨report, hreport, hfollowed.within report hreport rfl rfl 0 _ _ _ _ ⟨200, [], [7], true⟩
      rfl (hleads once rfl) ⟨_, rfl, ?_, by decide, by decide, rfl⟩ (by decide)⟩
    decide +kernel
  · have hfollowed := followed_assemble never ["http://a.b/start"] destination w
    obtain ⟨report, hreport⟩ := hfollowed.reported.mpr hprepared
    obtain ⟨hunwritten, m, hm, hindex, -, hrejected, -⟩ := hfollowed.past report hreport 0 _ _ _ _
      rfl (hleads never rfl) (by decide)
    exact ⟨report, hreport, hunwritten, m, hm, hindex, hrejected⟩

end Tutor.Speech.Fetching
