import Tutor.Proofs.Json.Written
import Tutor.Proofs.Server.Calls
import Tutor.Proofs.Url.Form

/-!
# How requests name sessions

A session is named in three ways: as JSON with a question, as JSON alone to have it cleared, and in
a query to have it read. The ways are read by different decoders, but they come to the same: what
was asked in a session under a name is what is read under that name, until it is cleared under it.

* `NamedIn`, `sessionOfQuery_eq_ok_iff` – the sessions that queries name.
* `GivenIn`, `Posed.exists_call` – the sessions that questions name.
* `ofTree_toValue`, `written` – names that are written, whatever they hold.
* `Tells`, `Lists`, `lists_historyValue` – the turns that an answer lists.
* `Addressed`, `addressed_after` – what becomes of the sessions that requests name.
-/

namespace Tutor.Server

open Tutor.Http Tutor.Json Tutor.Text

/-! ### Queries -/

/-- The pairs of a query name a session: one of them does, or none, and then no session is named. -/
inductive NamedIn : List (String × String) → Option String → Prop
  | unnamed {pairs : List (String × String)} : (∀ p ∈ pairs, p.1 ≠ sessionField) →
      NamedIn pairs none
  | named {front back : List (String × String)} {name : String} :
      (∀ p ∈ front, p.1 ≠ sessionField) → (∀ p ∈ back, p.1 ≠ sessionField) →
      NamedIn (front ++ (sessionField, name) :: back) (some name)

variable {session : Option String} {name : String}

theorem filter_sessionField_eq_nil {pairs : List (String × String)} :
    pairs.filter (·.1 == sessionField) = [] ↔ ∀ p ∈ pairs, p.1 ≠ sessionField := by
  simp [List.filter_eq_nil_iff]

/-- The session of a query is the one that its pairs name. -/
theorem sessionOfQuery_eq_ok_iff {query : Option String} :
    sessionOfQuery query = .ok session ↔
      NamedIn (Url.formPairs (query.getD "").toList) session := by
  rw [sessionOfQuery]
  generalize Url.formPairs (query.getD "").toList = pairs
  constructor
  · intro h
    split at h
    next hnone =>
      obtain rfl := Except.ok.inj h
      exact .unnamed (filter_sessionField_eq_nil.mp hnone)
    next key name hone =>
      obtain rfl := Except.ok.inj h
      obtain ⟨front, back, rfl, hfront, hkey, hback⟩ := List.filter_eq_cons_iff.mp hone
      obtain rfl : key = sessionField := by simpa using hkey
      exact .named (by simpa using hfront) (filter_sessionField_eq_nil.mp hback)
    next => cases h
  · intro h
    cases h with
    | unnamed hall => rw [filter_sessionField_eq_nil.mpr hall]
    | named hfront hback =>
      rw [List.filter_append, filter_sessionField_eq_nil.mpr hfront, List.nil_append,
        List.filter_cons_of_pos (by simp), filter_sessionField_eq_nil.mpr hback]

/-! ### Questions -/

/-- What is given with a question names a session, or leaves it out. -/
inductive GivenIn (given : List (Ask.Field × Tree)) : Option String → Prop
  | unnamed : (∀ t, (.session, t) ∉ given) → GivenIn given none
  | named {t : Tree} {session : Option String} : (.session, t) ∈ given → OptionalText t session →
      GivenIn given session

theorem OptionalText.unique {t : Tree} {other : Option String} (h : OptionalText t session)
    (h' : OptionalText t other) : session = other :=
  Except.ok.inj
    ((optional_string_eq_ok_iff.mpr h).symm.trans (optional_string_eq_ok_iff.mpr h'))

theorem givenIn_iff {given : List (Ask.Field × Tree)} {q : Ask.Request}
    (h : Ask.Request.layout.Reads given {} q) : GivenIn given session ↔ q.session = session := by
  have hgiven : ∀ t, (.session, t) ∈ given → OptionalText t q.session := by
    intro t hmem
    exact optional_string_eq_ok_iff.mp (h.decoded .session t hmem)
  have hleft : (∀ t, (.session, t) ∉ given) → q.session = none := h.kept .session
  constructor
  · intro hsession
    cases hsession with
    | unnamed hnone => exact hleft hnone
    | named hmem htext => exact (hgiven _ hmem).unique htext
  · rintro rfl
    by_cases hnone : ∀ t, (.session, t) ∉ given
    · rw [hleft hnone]
      exact .unnamed hnone
    · obtain ⟨t, hmem⟩ := not_forall_not.mp hnone
      exact .named hmem (hgiven t hmem)

/-- A question is asked in the session that is given with it. -/
theorem Posed.exists_call {r : Request} {given : List (Ask.Field × Tree)} (h : Posed r given)
    (hsession : GivenIn given session) :
    ∃ q, bodyOf (toAsk r) Ask.Request.ofTree = .ok q ∧ q.session = session ∧
      callOf? (toAsk r) = some (.ask q (.ofHeader r.header)) := by
  obtain ⟨q, hreads⟩ := Ask.Request.exists_reads h.gives h.kinds
  have hread : bodyOf (toAsk r) Ask.Request.ofTree = .ok q := bodyOf_eq_ok_iff.mpr
    ⟨h.isJson, h.fits, Ask.Request.ofTree_eq_ok_iff.mpr ⟨given, h.gives, hreads⟩⟩
  refine ⟨q, hread, (givenIn_iff hreads).mp hsession, ?_⟩
  show Route.call? (toAsk r) .ask = _
  rw [Route.call?, hread]
  rfl

/-! ### Names that are written -/

/-- A request without a temperature that is written as JSON is read as itself. -/
theorem ofTree_toValue {q : Ask.Request} (h : q.temperature = none) :
    Ask.Request.ofTree q.toValue.tree = .ok q := by
  obtain ⟨question, model, temperature, simplify, language, playAudio, session⟩ := q
  obtain rfl : temperature = none := h
  cases question <;> cases model <;> cases session <;> rfl

/-- A name that is written, as JSON or in a form, is the name that is read. -/
structure Written (name : String) : Prop where
  question : ∀ (r : Request) (q : Ask.Request), r.header.mediaType?.any MediaType.isJson = true →
    r.body = bytesOf q.toValue.render → r.body.length ≤ mostBytes → q.temperature = none →
    q.session = some name → ∃ given, Posed r given ∧ GivenIn given (some name)
  clearing : ∀ r : Request, r.header.mediaType?.any MediaType.isJson = true →
    r.body = bytesOf (Value.object [(sessionField, .text name)]).render →
    r.body.length ≤ mostBytes → Asks r (some name)
  query : ∀ pairs, (∀ p ∈ pairs, p.1 ≠ sessionField) →
    NamedIn (Url.formPairs (joinWith ['&'] (((sessionField, name) :: pairs).map Url.formPair)))
      (some name)

theorem isNumberless_toValue {q : Ask.Request} (h : q.temperature = none) :
    q.toValue.isNumberless = true := by
  obtain ⟨question, model, temperature, simplify, language, playAudio, session⟩ := q
  obtain rfl : temperature = none := h
  cases question <;> cases model <;> cases session <;> rfl

theorem written (name : String) : Written name where
  question r q hjson hbody hfits htemperature hsession := by
    have htree : (Document.ofBytes r.body).tree = q.toValue.tree := by
      rw [hbody, ofBytes_render (isNumberless_toValue htemperature)]
    obtain ⟨given, hgives, hreads⟩ :=
      Ask.Request.ofTree_eq_ok_iff.mp (ofTree_toValue htemperature)
    rw [← htree] at hgives
    refine ⟨given, ⟨hjson, hfits, hgives, ?_⟩, (givenIn_iff hreads).mpr hsession⟩
    intro k t hmem
    exact Ask.Field.exists_decode_iff.mp ⟨_, hreads.decoded k t hmem⟩
  clearing r hjson hbody hfits := by
    refine ⟨hjson, hfits, ?_⟩
    rw [hbody, ofBytes_render rfl]
    exact @Names.named [] [] _ _ (by simp) (.text name) (by simp)
  query pairs hpairs := by
    rw [Url.formPairs_joinWith]
    exact @NamedIn.named [] pairs name (by simp) hpairs

/-! ### Histories -/

/-- An object tells a turn: who said it, what was said, and when. -/
inductive Tells : Tree → Session.Turn → Prop
  | question (text : String) (time : Timestamp) :
      Tells (.object [(some "role", .text (some "user")), (some "text", .text (some text)),
        (some "time", .text (some time.render))] true) ⟨.user, text, time⟩
  | answer (text : String) (time : Timestamp) :
      Tells (.object [(some "role", .text (some "assistant")), (some "text", .text (some text)),
        (some "time", .text (some time.render))] true) ⟨.assistant, text, time⟩

/-- The body of an answer lists turns, each of them once and in order. -/
structure Lists (response : Response) (turns : List Session.Turn) : Prop where
  status_eq : response.status = 200
  header_eq : response.header =
    [field "content-type" "application/json", field "access-control-allow-origin" "*"]
  body_eq : ∃ items, Document.ofBytes response.body =
      ⟨.object [(some "ok", .bool true), (some "history", .array items true)] true, true⟩ ∧
    List.Forall₂ Tells items turns

theorem tells_toValue (t : Session.Turn) : Tells t.toValue.tree t := by
  obtain ⟨role, text, time⟩ := t
  cases role with
  | user => exact .question text time
  | assistant => exact .answer text time

theorem forall₂_tells (turns : List Session.Turn) :
    List.Forall₂ Tells (Value.trees (turns.map Session.Turn.toValue)) turns := by
  induction turns with
  | nil => exact .nil
  | cons t turns ih => exact .cons (tells_toValue t) ih

theorem areNumberless_turns (turns : List Session.Turn) :
    Value.areNumberless (turns.map Session.Turn.toValue) = true := by
  induction turns with
  | nil => rfl
  | cons t turns ih =>
    have hturn : t.toValue.isNumberless = true := rfl
    rw [List.map_cons, Value.areNumberless, hturn, ih]
    rfl

/-- An answer with a history lists the turns of the history. -/
theorem lists_historyValue (turns : List Session.Turn) :
    Lists (shared (json 200 (historyValue turns))) turns where
  status_eq := rfl
  header_eq := rfl
  body_eq := by
    have hturns : (historyValue turns).isNumberless =
        (Value.areNumberless (turns.map Session.Turn.toValue) && true) := rfl
    have hnumberless : (historyValue turns).isNumberless = true := by
      rw [hturns, areNumberless_turns]
      rfl
    exact ⟨_, ofBytes_render hnumberless, forall₂_tells turns⟩

/-! ### What becomes of sessions -/

variable {σ : Type} [Outside σ] {site : Site σ} {r : Request} {w : World σ}

/-- A request to read a session. -/
def toHistory (r : Request) : Request := { r with method := "GET", path := Route.history.path }

theorem run_answer_toHistory (h : NamedIn (Url.formPairs (r.query.getD "").toList) session) :
    StateT.run (site.answer (toHistory r)) w =
      (shared (json 200 (historyValue (w.sessions.turns (Session.resolve session)))), w) := by
  have hread : sessionOfQuery (toHistory r).query = .ok session := sessionOfQuery_eq_ok_iff.mpr h
  have hcall : callOf? (toHistory r) = some (.history session) := by
    show Route.call? (toHistory r) .history = _
    rw [Route.call?, hread]
  rw [run_answer_of_call hcall]
  rfl

/-- What a call adds to a session, touching no other. -/
structure Adds (s : Ask.Service σ) (name : String) (x : Ask.Entry σ) (w' : World σ) : Prop where
  turns : ∃ new, w'.sessions.turns name = x.before.sessions.turns name ++ new ∧
    new.map Ask.said = s.saidIn name x
  others : ∀ other, other ≠ name → w'.sessions.turns other = x.before.sessions.turns other

theorem adds_ask (s : Ask.Service σ) (q : Ask.Request) (origin : Speech.Origin) (w : World σ) :
    Adds s (Session.resolve q.session)
      ⟨w, .ask q origin, (StateT.run (s.perform (.ask q origin)) w).1⟩
      (StateT.run (s.ask q origin) w).2 := by
  have hasked := s.asked_ask q origin w
  rw [s.run_perform_ask]
  generalize StateT.run (s.ask q origin) w = y at hasked ⊢
  obtain ⟨result, w'⟩ := y
  dsimp only at hasked ⊢
  generalize hstore : w'.sessions = store at hasked
  cases hasked with
  | refused e hnone =>
    refine ⟨⟨[], ?_, ?_⟩, fun other _ => by rw [hstore]⟩
    · rw [hstore, List.append_nil]
    · simp [Ask.Service.saidIn, hnone]
  | @failed question e time haccepted hprimary =>
    refine ⟨⟨[⟨.user, question, time⟩], ?_, ?_⟩, fun other hother => ?_⟩
    · rw [hstore, Session.Store.turns_append_self]
    · simp [Ask.Service.saidIn, haccepted, Ask.said]
    · rw [hstore, Session.Store.turns_append, if_neg hother.symm]
  | @answered question c reply time time' haccepted hprimary hreply =>
    refine ⟨⟨[⟨.user, question, time⟩, ⟨.assistant, reply.text, time'⟩], ?_, ?_⟩,
      fun other hother => ?_⟩
    · rw [hstore, Session.Store.turns_append_self, Session.Store.turns_append_self,
        List.append_assoc]
      rfl
    · simp [Ask.Service.saidIn, haccepted, Ask.said]
    · rw [hstore, Session.Store.turns_append, if_neg hother.symm, Session.Store.turns_append,
        if_neg hother.symm]

/-- What becomes of the sessions that requests name, after calls that a log tells. -/
structure Addressed (site : Site σ) (log : List (Ask.Entry σ)) (w : World σ) : Prop where
  /-- No name, an empty name and `global` mean one session, and any other name its own. -/
  shared : Session.resolve none = "global" ∧ Session.resolve (some "") = "global" ∧
    ∀ name, name ≠ "" → Session.resolve (some name) = name
  /-- Any name can be written in each of the three ways. -/
  written : ∀ name, Written name
  /-- A question adds what is said to the session that it names, and to no other. -/
  asked : ∀ r given session, Posed r given → GivenIn given session → ∃ q,
    callOf? (toAsk r) = some (.ask q (.ofHeader r.header)) ∧ q.session = session ∧
      Adds site.service (Session.resolve session)
        ⟨w, .ask q (.ofHeader r.header),
          (StateT.run (site.service.perform (.ask q (.ofHeader r.header))) w).1⟩
        (StateT.run (site.answer (toAsk r)) w).2
  /-- Under the name in a query the turns of the session are listed, which tell what was said in it
  since it was last cleared. -/
  read : ∀ r session, NamedIn (Url.formPairs (r.query.getD "").toList) session → ∃ response,
    StateT.run (site.answer (toHistory r)) w = (response, w) ∧
      Lists response (w.sessions.turns (Session.resolve session)) ∧
      (w.sessions.turns (Session.resolve session)).map Ask.said =
        (Ask.sinceForgotten (Session.resolve session) log).flatMap
          (site.service.saidIn (Session.resolve session))
  /-- A request to clear forgets the session that it names, and no other. -/
  cleared : ∀ r session, Asks r session → callOf? (toClear r) = some (.forget session) ∧
    Forgets (Session.resolve session) w (StateT.run (site.answer (toClear r)) w).2

/-- Whatever requests a new server gets, and whatever lies outside, the sessions that questions,
queries and requests to clear name are the same. -/
theorem addressed_after (site : Site σ) (rs : List Request) (disk : Disk) (trail : List Event)
    (outside : σ) :
    Addressed site (site.service.log (rs.filterMap callOf?) { disk, trail, outside })
      (site.after rs { disk, trail, outside }) where
  shared := ⟨rfl, rfl, fun name hname => if_neg (by simpa using hname)⟩
  written := Server.written
  asked r given session hposed hgiven := by
    obtain ⟨q, hread, rfl, hcall⟩ := hposed.exists_call hgiven
    refine ⟨q, hcall, rfl, ?_⟩
    rw [run_answer_of_call hcall]
    exact adds_ask site.service q _ _
  read r session hnamed := by
    refine ⟨_, run_answer_toHistory hnamed, lists_historyValue _, ?_⟩
    rw [after_eq]
    exact site.service.turns_after _ rfl _
  cleared r session hasks := by
    have hmeant : meant (toClear r) = session :=
      meant_of_asks ⟨hasks.isJson, hasks.fits, hasks.names⟩
    constructor
    · show some (Ask.Step.forget (meant (toClear r))) = _
      rw [hmeant]
    · have hforgets := forgets_clear (toClear r) (site.after rs { disk, trail, outside })
      rw [hmeant] at hforgets
      rw [run_answer_toClear]
      exact hforgets

end Tutor.Server
