import Mathlib.Tactic.Common
import Tutor.Proofs.Ask.History
import Tutor.Proofs.Json.Record
import Tutor.Server.Router
import Tutor.World.Replay

/-!
# What a request to clear does

A request to clear forgets one session and touches nothing else. Which one depends on its body: if
it can be accepted, the session that it names, and otherwise the one that all callers share. So a
body that was meant for another session, but cannot be accepted, costs everybody the shared history.

* `Names`, `sessionOfTree_eq_ok_iff` – the trees that are accepted, and the session that they name.
* `Asks`, `asks_iff` – the requests whose body is accepted.
* `Cleared` – what becomes of the sessions.
-/

namespace Tutor.Server

open Tutor.Http Tutor.Json Tutor.Text

/-! ### Accepted bodies -/

/-- A member of an object that is passed over: it is not the one that is asked for, and whole. -/
def Passed (m : Option String × Tree) : Prop :=
  ∃ key, m.1 = some key ∧ key ≠ sessionField ∧ m.2.isWhole = true

/-- A text, or null for none. -/
inductive OptionalText : Tree → Option String → Prop
  | null : OptionalText .null none
  | text (s : String) : OptionalText (.text (some s)) (some s)

/-- A tree names a session: an object under the field for it, which may stand there once, or an
array as its only item. -/
inductive Names : Tree → Option String → Prop
  | unnamed {members : List (Option String × Tree)} : (∀ m ∈ members, Passed m) →
      Names (.object members true) none
  | named {front back : List (Option String × Tree)} {t : Tree} {session : Option String} :
      (∀ m ∈ front, Passed m) → OptionalText t session → (∀ m ∈ back, Passed m) →
      Names (.object (front ++ (some sessionField, t) :: back) true) session
  | noItem : Names (.array [] true) none
  | item {t : Tree} {session : Option String} : OptionalText t session →
      Names (.array [t] true) session

/-- A request asks for a session to be forgotten: its body is said to be JSON, is not too long, and
names the session. -/
structure Asks (r : Request) (session : Option String) : Prop where
  isJson : r.header.mediaType?.any MediaType.isJson = true
  fits : r.body.length ≤ mostBytes
  names : Names (Document.ofBytes r.body).tree session

/-- The field of the session. -/
def sessionMember : Member (Option String) := ⟨sessionField, fun t _ => t.optional Tree.string⟩

theorem optional_string_eq_ok_iff {t : Tree} {session : Option String} :
    t.optional Tree.string = .ok session ↔ OptionalText t session := by
  constructor
  · intro h
    cases t with
    | null =>
      obtain rfl := Except.ok.inj h
      exact .null
    | text s =>
      cases s with
      | none => cases h
      | some s =>
        obtain rfl := Except.ok.inj h
        exact .text s
    | _ => cases h
  · intro h
    cases h with
    | null => rfl
    | text s => rfl

/-- The field of the session, as the only one of a record. -/
def sessionLayout : Layout (Option String) Unit (fun _ => Option String) where
  name _ := sessionField
  decode _ t := t.optional Tree.string
  get _ session := session
  put _ session _ := session
  name_injective _ := rfl
  get_put _ _ _ := rfl
  get_put_of_ne _ _ hne := absurd rfl hne
  ext h := h ()

theorem member_sessionLayout : sessionLayout.member () = sessionMember := by
  have hset : (sessionLayout.member ()).set = sessionMember.set := by
    funext t r
    exact bind_pure _
  exact congrArg (Member.mk sessionField) hset

variable {members : List (Option String × Tree)} {session : Option String} {t : Tree}

/-- A member that is passed over may stand in front. -/
theorem Passed.picks {m : Option String × Tree} {given : List (Unit × Tree)} (hm : Passed m)
    (h : sessionLayout.Picks [()] members given) :
    sessionLayout.Picks [()] (m :: members) given := by
  obtain ⟨⟨-, t⟩, key, rfl, hne, hwhole⟩ := m, hm
  exact .passed (fun _ _ => hne.symm) hwhole h

/-- An object that gives nothing has only members that are passed over. -/
theorem picks_nil_iff :
    sessionLayout.Picks [()] members [] ↔ ∀ m ∈ members, Passed m := by
  induction members with
  | nil => exact iff_of_true .nil (by simp)
  | cons m members ih =>
    rw [List.forall_mem_cons, ← ih]
    constructor
    · intro h
      cases h with
      | passed hunknown hwhole hmore =>
        exact ⟨⟨_, rfl, (hunknown () (by simp)).symm, hwhole⟩, hmore⟩
    · rintro ⟨hm, hmore⟩
      exact hm.picks hmore

/-- An object that gives the field has it once, with members that are passed over around it. -/
theorem picks_singleton_iff :
    sessionLayout.Picks [()] members [((), t)] ↔ ∃ front back,
      members = front ++ (some sessionField, t) :: back ∧
        (∀ m ∈ front, Passed m) ∧ ∀ m ∈ back, Passed m := by
  constructor
  · intro h
    induction members with
    | nil => cases h
    | cons m members ih =>
      cases h with
      | passed hunknown hwhole hmore =>
        obtain ⟨front, back, rfl, hfront, hback⟩ := ih hmore
        have hm : Passed (some _, _) := ⟨_, rfl, (hunknown () (by simp)).symm, hwhole⟩
        exact ⟨_ :: front, back, rfl, List.forall_mem_cons.mpr ⟨hm, hfront⟩, hback⟩
      | picked hk hmore => exact ⟨[], members, rfl, by simp, picks_nil_iff.mp hmore⟩
  · rintro ⟨front, back, rfl, hfront, hback⟩
    induction front with
    | nil => exact .picked (by simp) (picks_nil_iff.mpr hback)
    | cons m front ih =>
      obtain ⟨hm, hfront⟩ := List.forall_mem_cons.mp hfront
      exact hm.picks (ih hfront)

/-- What is read where nothing was given, and where the field was. -/
theorem reads_nil_iff : sessionLayout.Reads [] none session ↔ session = none := by
  constructor
  · intro h
    exact h.kept () (by simp)
  · rintro rfl
    exact ⟨by simp, fun _ _ => rfl⟩

theorem reads_singleton_iff :
    sessionLayout.Reads [((), t)] none session ↔ OptionalText t session := by
  rw [← optional_string_eq_ok_iff]
  constructor
  · intro h
    exact h.decoded () t (by simp)
  · intro h
    refine ⟨fun k t' hmem => ?_, fun k hk => absurd List.mem_cons_self (hk t)⟩
    obtain rfl := (Prod.mk.inj (List.mem_singleton.mp hmem)).2
    exact h

/-- There is one field, so an object gives it or nothing. -/
theorem given_cases {given : List (Unit × Tree)} (h : (given.map Prod.fst).Nodup) :
    given = [] ∨ ∃ t, given = [((), t)] := by
  match given with
  | [] => exact .inl rfl
  | [((), t)] => exact .inr ⟨t, rfl⟩
  | ((), _) :: ((), _) :: _ => simp at h

/-- A tree is accepted exactly if it names a session, which is then the one that is cleared. -/
theorem sessionOfTree_eq_ok_iff : sessionOfTree t = .ok session ↔ Names t session := by
  have hrecord : sessionOfTree t = t.record ([()].map sessionLayout.member) none := by
    rw [List.map_singleton, member_sessionLayout]
    rfl
  rw [hrecord, Layout.record_eq_ok_iff (by simp)]
  constructor
  · rintro ⟨given, hgives, hreads⟩
    cases hgives with
    | @array items hlength =>
      match items with
      | [] =>
        obtain rfl := reads_nil_iff.mp hreads
        exact .noItem
      | [t] => exact .item (reads_singleton_iff.mp hreads)
      | _ :: _ :: _ => simp at hlength
    | object hpicks hnodup =>
      rcases given_cases hnodup with rfl | ⟨t, rfl⟩
      · obtain rfl := reads_nil_iff.mp hreads
        exact .unnamed (picks_nil_iff.mp hpicks)
      · obtain ⟨front, back, rfl, hfront, hback⟩ := picks_singleton_iff.mp hpicks
        exact .named hfront (reads_singleton_iff.mp hreads) hback
  · intro h
    cases h with
    | unnamed hall =>
      exact ⟨[], .object (picks_nil_iff.mpr hall) .nil, reads_nil_iff.mpr rfl⟩
    | named hfront htext hback =>
      exact ⟨_, .object (picks_singleton_iff.mpr ⟨_, _, rfl, hfront, hback⟩) (by simp),
        reads_singleton_iff.mpr htext⟩
    | noItem => exact ⟨_, .array (Nat.zero_le _), reads_nil_iff.mpr rfl⟩
    | item htext => exact ⟨_, .array (Nat.le_refl _), reads_singleton_iff.mpr htext⟩

theorem asks_iff {r : Request} : bodyOf r sessionOfTree = .ok session ↔ Asks r session := by
  rw [bodyOf_eq_ok_iff, sessionOfTree_eq_ok_iff]
  constructor
  · rintro ⟨hjson, hfits, hnames⟩
    exact ⟨hjson, hfits, hnames⟩
  · intro h
    exact ⟨h.isJson, h.fits, h.names⟩

/-! ### Forgetting -/

variable {σ : Type}

/-- A session is forgotten, and nothing else happens. -/
structure Forgets (name : String) (w w' : World σ) : Prop where
  gone : w'.sessions.turns name = []
  others : ∀ other, other ≠ name → w'.sessions.turns other = w.sessions.turns other
  disk : w'.disk = w.disk
  trail : w'.trail = w.trail
  outside : w'.outside = w.outside

theorem forgets_forget (session : Option String) (w : World σ) :
    Forgets (Session.resolve session) w (StateT.run (Ask.Service.forget session) w).2 where
  gone := Session.Store.turns_clear_self _ _
  others other hother := by
    show (w.sessions.clear (Session.resolve session)).turns other = _
    rw [Session.Store.turns_clear, if_neg hother.symm]
  disk := rfl
  trail := rfl
  outside := rfl

/-- The session that a request to clear means. -/
def meant (r : Request) : Option String :=
  match bodyOf r sessionOfTree with
  | .ok session => session
  | .error _ => none

theorem meant_of_asks {r : Request} (h : Asks r session) : meant r = session := by
  rw [meant, asks_iff.mpr h]

theorem meant_of_not_asks {r : Request} (h : ∀ session, ¬ Asks r session) : meant r = none := by
  rw [meant]
  cases hbody : bodyOf r sessionOfTree with
  | error why => rfl
  | ok session => exact absurd (asks_iff.mp hbody) (h session)

theorem forgets_clear (r : Request) (w : World σ) :
    Forgets (Session.resolve (meant r)) w (StateT.run (clear r) w).2 :=
  forgets_forget (meant r) w

/-- A request to clear. -/
def toClear (r : Request) : Request := { r with method := "POST", path := Route.clear.path }

theorem run_answer_toClear [Outside σ] (site : Site σ) (r : Request) (w : World σ) :
    StateT.run (site.answer (toClear r)) w =
      ({ acknowledged with
          header := acknowledged.header ++ [field "access-control-allow-origin" "*"] },
        (StateT.run (clear (toClear r)) w).2) := by
  have hdispatch : site.dispatch (toClear r) = clear (toClear r) := rfl
  rw [Site.answer, hdispatch]
  rfl

/-- What a request to clear does. -/
structure Cleared (r : Request) (w : World σ) (response : Response) (w' : World σ) : Prop where
  /-- It is acknowledged, whatever its body. -/
  acknowledged : response.status = 200 ∧ response.body = Server.acknowledged.body
  /-- If its body is accepted, the session that it names is forgotten. -/
  named : ∀ session, Asks r session → Forgets (Session.resolve session) w w'
  /-- If its body is not accepted, empty or not, the session that all callers share is forgotten. -/
  unread : (∀ session, ¬ Asks r session) → Forgets Session.defaultName w w'
  /-- So a body that is not accepted leaves all sessions alone only if nothing was shared. -/
  harmless : (∀ session, ¬ Asks r session) →
    ((∀ name, w'.sessions.turns name = w.sessions.turns name) ↔
      w.sessions.turns Session.defaultName = [])

/-- Whatever stands in its body, a request to clear forgets one session: the one that it names, or
the one that all callers share. -/
theorem cleared_answer [Outside σ] (site : Site σ) (r : Request) (w : World σ) :
    Cleared (toClear r) w (StateT.run (site.answer (toClear r)) w).1
      (StateT.run (site.answer (toClear r)) w).2 := by
  have hforgets := forgets_clear (toClear r) w
  have hunread : (∀ session, ¬ Asks (toClear r) session) →
      Forgets Session.defaultName w (StateT.run (clear (toClear r)) w).2 := by
    intro h
    rw [meant_of_not_asks h] at hforgets
    exact hforgets
  rw [run_answer_toClear]
  refine ⟨⟨rfl, rfl⟩, fun session h => ?_, hunread, fun h => ?_⟩
  · rw [meant_of_asks h] at hforgets
    exact hforgets
  · have hshared := hunread h
    constructor
    · intro hsame
      rw [← hsame, hshared.gone]
    · intro hempty name
      by_cases hname : name = Session.defaultName
      · rw [hname, hshared.gone, hempty]
      · exact hshared.others name hname

/-- A body that names another session, but is not said to be JSON, costs everybody the session that
they share. -/
theorem turns_lost_to_unlabelled_body :
    let provider : Provider Replay :=
      { isConfigured := true, complete := fun _ => pure (.ok ⟨⟨.assistant, "Because."⟩, none⟩) }
    let service : Ask.Service Replay := .around {} provider (Ask.Service.synthesizerOf {})
    let question : Ask.Request := { question := some "Why?", simplify := false, playAudio := false }
    let w := service.after [.ask question {}] { outside := ⟨[], none⟩ }
    let body := bytesOf "\x7b\"sessionId\": \"s1\"\x7d"
    let r := toClear { method := "POST", path := "", body }
    body ≠ [] ∧ (∀ session, ¬ Asks r session) ∧
      (w.sessions.turns "global").map Ask.said = [(.user, "Why?"), (.assistant, "Because.")] ∧
      (StateT.run ((Site.of {} service).answer r) w).2.sessions.turns "global" = [] := by
  intro provider service question w body r
  have hunread : ∀ session, ¬ Asks r session := fun session h => by cases h.isJson
  have hforgets := forgets_clear r w
  rw [meant_of_not_asks hunread] at hforgets
  refine ⟨by decide, hunread, ?_, ?_⟩
  · rw [service.turns_after [.ask question {}] rfl]
    rfl
  · rw [run_answer_toClear]
    exact hforgets.gone

end Tutor.Server
