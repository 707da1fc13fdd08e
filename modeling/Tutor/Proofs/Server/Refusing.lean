import Tutor.Proofs.Ask.Consultation
import Tutor.Proofs.Ask.Decoding
import Tutor.Proofs.Ask.Independence
import Tutor.Server.Router

/-!
# Questions that are refused

A question over the web is refused before anything is done for it if its body is not accepted, if
the service has no credential, or if it asks nothing; and in this order the reason is told. All that
a refused question leaves behind is a counter.

* `Posed`, `posed_iff` – the requests whose body is accepted.
* `Untouched`, `Refuses` – what a refusal leaves alone, and what it says.
* `Refusing`, `refusing_answer` – which questions are refused, and how.
-/

namespace Tutor.Server

open Tutor.Http Tutor.Json Tutor.Text

/-! ### Accepted bodies -/

/-- A request poses a question: its body is said to be JSON and is not too long, and what is given
in it is of the kinds that are wanted. -/
structure Posed (r : Request) (given : List (Ask.Field × Tree)) : Prop where
  isJson : r.header.mediaType?.any MediaType.isJson = true
  fits : r.body.length ≤ mostBytes
  gives : Ask.Request.layout.Gives Ask.Field.all (Document.ofBytes r.body).tree given
  kinds : ∀ k t, (k, t) ∈ given → k.Fits t

/-- The questions that can be read are those that are posed. -/
theorem posed_iff {r : Request} :
    (∃ q, bodyOf r Ask.Request.ofTree = .ok q) ↔ ∃ given, Posed r given := by
  simp only [bodyOf_eq_ok_iff]
  constructor
  · rintro ⟨q, hjson, hfits, htree⟩
    obtain ⟨given, hgives, hkinds⟩ := Ask.Request.exists_ofTree_iff.mp ⟨q, htree⟩
    exact ⟨given, hjson, hfits, hgives, hkinds⟩
  · rintro ⟨given, h⟩
    obtain ⟨q, htree⟩ := Ask.Request.exists_ofTree_iff.mpr ⟨given, h.gives, h.kinds⟩
    exact ⟨q, h.isJson, h.fits, htree⟩

/-- What is read of a posed question is what is given in it. -/
theorem Posed.exists_question {r : Request} {given : List (Ask.Field × Tree)} (h : Posed r given) :
    ∃ q, bodyOf r Ask.Request.ofTree = .ok q ∧
      ∀ text, q.question = some text ↔ (Ask.Field.question, Tree.text (some text)) ∈ given := by
  obtain ⟨q, hreads⟩ := Ask.Request.exists_reads h.gives h.kinds
  refine ⟨q, ?_, fun text => Ask.Request.question_eq_some_iff hreads⟩
  exact bodyOf_eq_ok_iff.mpr
    ⟨h.isJson, h.fits, Ask.Request.ofTree_eq_ok_iff.mpr ⟨given, h.gives, hreads⟩⟩

/-! ### Refusals -/

variable {σ : Type}

/-- Nothing was done but counting. -/
structure Untouched (w w' : World σ) : Prop where
  sessions : w'.sessions = w.sessions
  disk : w'.disk = w.disk
  outside : w'.outside = w.outside
  trail : ∃ counters : List Counter, w'.trail = w.trail ++ counters.map .counted

theorem Untouched.refl (w : World σ) : Untouched w w :=
  ⟨rfl, rfl, rfl, [], (List.append_nil _).symm⟩

/-- A question is refused with a status and an error, without detail, and nothing was done. -/
structure Refuses (status : Nat) (error : String) (w : World σ) (response : Response)
    (w' : World σ) : Prop where
  status_eq : response.status = status
  body_eq : response.body =
    bytesOf (Value.object [("ok", .bool false), ("error", .text error)]).render
  header_eq : response.header =
    [field "content-type" "application/json", field "access-control-allow-origin" "*"]
  untouched : Untouched w w'

/-- A request with a question. -/
def toAsk (r : Request) : Request := { r with method := "POST", path := Route.ask.path }

/-- An answer that pages of any origin may read. -/
def shared (response : Response) : Response :=
  { response with header := response.header ++ [field "access-control-allow-origin" "*"] }

theorem refuses_response (status : Nat) (error : String) {w w' : World σ} (h : Untouched w w') :
    Refuses status error w (shared (Refusal.mk status error none).response) w' := by
  have hvalue : (Refusal.mk status error none).toValue =
      .object [("ok", .bool false), ("error", .text error)] := rfl
  rw [Refusal.response, hvalue]
  constructor
  · rfl
  · simp only [shared, json]
  · simp only [shared, json, List.cons_append, List.nil_append]
  · exact h

variable [Outside σ]

theorem run_answer_toAsk (site : Site σ) (r : Request) (w : World σ) :
    StateT.run (site.answer (toAsk r)) w =
      (shared (StateT.run (ask site.service (toAsk r)) w).1,
        (StateT.run (ask site.service (toAsk r)) w).2) := by
  have hdispatch : site.dispatch (toAsk r) = ask site.service (toAsk r) := rfl
  rw [Site.answer, hdispatch]
  rfl

theorem run_ask_unread {s : Ask.Service σ} {r : Request} {why : BodyProblem}
    (h : bodyOf r Ask.Request.ofTree = .error why) (w : World σ) :
    StateT.run (ask s r) w = ((Refusal.ofRequest why.message).response, w) := by
  rw [ask, h]
  rfl

theorem run_ask_read {s : Ask.Service σ} {r : Request} {q : Ask.Request}
    (h : bodyOf r Ask.Request.ofTree = .ok q) (w : World σ) :
    StateT.run (ask s r) w =
      (match (StateT.run (s.ask q (.ofHeader r.header)) w).1 with
        | .error e => (Refusal.ofFault e).response
        | .ok reply => json 200 (replyValue reply),
      (StateT.run (s.ask q (.ofHeader r.header)) w).2) := by
  rw [ask, h]
  dsimp only
  rw [Run.run_bind]
  cases (StateT.run (s.ask q (.ofHeader r.header)) w).1 with
  | error e => rfl
  | ok reply => rfl

/-- A question that the service does not accept is refused for the reason that it gives. -/
theorem refuses_of_not_accepted {s : Ask.Service σ} {r : Request} {q : Ask.Request}
    (hread : bodyOf r Ask.Request.ofTree = .ok q) (h : s.accepted? q = none) (w : World σ)
    {status : Nat} {error : String} (hrefusal : Refusal.ofFault s.refusal = ⟨status, error, none⟩) :
    Refuses status error w (shared (StateT.run (ask s r) w).1) (StateT.run (ask s r) w).2 := by
  obtain ⟨e, verdict, hrun⟩ := Ask.Service.run_ask_refused h (.ofHeader r.header) w
  have hfault := Ask.Service.ask_refused h (.ofHeader r.header) w
  rw [hrun] at hfault
  obtain rfl := Except.error.inj hfault
  rw [run_ask_read hread, hrun]
  dsimp only
  rw [hrefusal]
  exact refuses_response status error ⟨rfl, rfl, rfl, [.asked verdict], rfl⟩

/-- Which questions are refused, and how. -/
structure Refusing (site : Site σ) (r : Request) (w : World σ) (response : Response)
    (w' : World σ) : Prop where
  /-- If the body is not accepted, the problem with it is told. -/
  unread : (∀ given, ¬ Posed r given) → ∃ why : BodyProblem,
    bodyOf r Ask.Request.ofTree = .error why ∧ Refuses 400 why.message w response w'
  /-- Otherwise, if there is no credential, this is told. -/
  unconfigured : ∀ given, Posed r given → site.service.provider.isConfigured = false →
    Refuses 500 (site.service.provider.credential ++ " not configured") w response w'
  /-- Otherwise, if nothing is asked, or blanks, this is told. -/
  unasked : ∀ given, Posed r given → site.service.provider.isConfigured = true →
    (∀ text, (Ask.Field.question, Tree.text (some text)) ∈ given → isBlankText text = true) →
    Refuses 400 "question is required" w response w'
  /-- Otherwise the language model is called. -/
  asked : ∀ given, Posed r given → site.service.provider.isConfigured = true →
    ∀ text, (Ask.Field.question, Tree.text (some text)) ∈ given → isBlankText text = false →
    ∃ call more, w'.calls = w.calls ++ call :: more

/-- Whatever stands in its body, a request to ask is refused, or the language model is called. -/
theorem refusing_answer (site : Site σ) (r : Request) (w : World σ) :
    Refusing site (toAsk r) w (StateT.run (site.answer (toAsk r)) w).1
      (StateT.run (site.answer (toAsk r)) w).2 := by
  rw [run_answer_toAsk]
  refine ⟨?_, ?_, ?_, ?_⟩
  · intro hunread
    cases hread : bodyOf (toAsk r) Ask.Request.ofTree with
    | ok q =>
      obtain ⟨given, hgiven⟩ := posed_iff.mp ⟨q, hread⟩
      exact absurd hgiven (hunread given)
    | error why =>
      rw [run_ask_unread hread]
      exact ⟨why, rfl, refuses_response 400 why.message (.refl w)⟩
  · intro given hposed hunconfigured
    obtain ⟨q, hread, -⟩ := hposed.exists_question
    refine refuses_of_not_accepted hread ?_ w ?_
    · rw [Ask.Service.accepted?, hunconfigured]
      rfl
    · rw [Ask.Service.refusal, hunconfigured]
      rfl
  · intro given hposed hconfigured hblank
    obtain ⟨q, hread, hquestion⟩ := hposed.exists_question
    refine refuses_of_not_accepted hread ?_ w ?_
    · cases haccepted : site.service.accepted? q with
      | none => rfl
      | some text =>
        obtain ⟨-, htext, hnotBlank⟩ := Ask.Service.accepted?_eq_some_iff.mp haccepted
        rw [hblank text ((hquestion text).mp htext)] at hnotBlank
        cases hnotBlank
    · rw [Ask.Service.refusal, hconfigured]
      rfl
  · intro given hposed hconfigured text hmem hnotBlank
    obtain ⟨q, hread, hquestion⟩ := hposed.exists_question
    have haccepted : site.service.accepted? q = some text :=
      Ask.Service.accepted?_eq_some_iff.mpr ⟨hconfigured, (hquestion text).mpr hmem, hnotBlank⟩
    have hcalls := site.service.calls_perform (.ask q (.ofHeader (toAsk r).header)) w .forgotten
    dsimp only [Ask.Service.consultation] at hcalls
    rw [haccepted] at hcalls
    rw [run_ask_read hread]
    exact ⟨_, _, hcalls⟩

end Tutor.Server
