import Tutor.Ask.Service
import Tutor.Server.Refusal
import Tutor.Session.Json

/-!
# Lessons over the web

Questions come as JSON in the body of a request. History is asked for by a query. A session is
cleared by a body that names it; one that cannot be read names none, and then it is the session that
all callers share.
-/

namespace Tutor.Server

open Tutor.Http Tutor.Json Tutor.Text

/-! ### Bodies -/

/-- The longest body that is read. -/
def mostBytes : Nat := 2097152

/-- Why a body gives no value. -/
inductive BodyProblem where
  /-- The body is not said to be JSON. -/
  | notJson
  /-- The body is too long. -/
  | tooLong
  /-- The body gives no value of what is wanted. -/
  | undecoded (why : Problem)
deriving DecidableEq, Repr

/-- The problem in words. Where a body gives no value, the words that a server says go on with a
colon and what is wrong at which place of the body; that part is left out here. -/
def BodyProblem.message : BodyProblem → String
  | notJson => "Expected request with \x60Content-Type: application/json\x60"
  | tooLong => "Failed to buffer the request body: length limit exceeded"
  | undecoded .malformed => "Failed to parse the request body as JSON"
  | undecoded .mismatched => "Failed to deserialize the JSON body into the target type"

/-- The value of a body. What follows it is not looked at. -/
def bodyOf (r : Request) (decode : Tree → Decoded α) : Except BodyProblem α :=
  if !(r.header.mediaType?.any MediaType.isJson) then .error .notJson
  else if mostBytes < r.body.length then .error .tooLong
  else
    match (Document.ofBytes r.body).decodeFront decode with
    | .ok a => .ok a
    | .error why => .error (.undecoded why)

/-- A body gives a value if it is said to be JSON, is not too long, and can be decoded. -/
theorem bodyOf_eq_ok_iff {r : Request} {decode : Tree → Decoded α} {a : α} :
    bodyOf r decode = .ok a ↔ r.header.mediaType?.any MediaType.isJson = true ∧
      r.body.length ≤ mostBytes ∧ decode (Document.ofBytes r.body).tree = .ok a := by
  rw [bodyOf, Document.decodeFront]
  constructor
  · intro h
    split at h
    · cases h
    next hjson =>
      split at h
      · cases h
      next hlong =>
        refine ⟨by simpa using hjson, Nat.not_lt.mp hlong, ?_⟩
        split at h
        next hdecode =>
          obtain rfl := Except.ok.inj h
          exact hdecode
        · cases h
  · rintro ⟨hjson, hfits, hdecode⟩
    rw [hjson, if_neg (by decide), if_neg (Nat.not_lt.mpr hfits), hdecode]

/-! ### Questions -/

/-- The members of a reply as JSON. -/
def replyMembers (r : Ask.Reply) : List (String × Value) :=
  [ ("text", .text r.text), ("summary", .textOrNull r.summary),
    ("example", .textOrNull r.illustration),
    ("audio", match r.audio with
      | some url => .object [("url", .text url)]
      | none => .null),
    ("sessionId", .text r.session) ]

/-- A reply as JSON. -/
def replyValue (r : Ask.Reply) : Value := .object (("ok", .bool true) :: replyMembers r)

variable {σ : Type}

/-- Answers a question. -/
def ask [Outside σ] (s : Ask.Service σ) (r : Request) : Run σ Response := do
  match bodyOf r Ask.Request.ofTree with
  | .error why => return (Refusal.ofRequest why.message).response
  | .ok question =>
    match ← s.ask question (.ofHeader r.header) with
    | .error e => return (Refusal.ofFault e).response
    | .ok reply => return json 200 (replyValue reply)

/-! ### Sessions -/

/-- The name under which a session is named. -/
def sessionField : String := "sessionId"

/-- The session that a query names. -/
def sessionOfQuery (query : Option String) : Except Unit (Option String) :=
  match (Url.formPairs (query.getD "").toList).filter (·.1 == sessionField) with
  | [] => .ok none
  | [(_, name)] => .ok (some name)
  | _ => .error ()

/-- The session that a body names. -/
def sessionOfTree (t : Tree) : Decoded (Option String) :=
  t.record [⟨sessionField, fun t _ => t.optional Tree.string⟩] none

/-- A history as JSON. -/
def historyValue (turns : List Session.Turn) : Value :=
  .object [("ok", .bool true), ("history", .array (turns.map Session.Turn.toValue))]

/-- Tells the turns of a session. -/
def history (r : Request) : Run σ Response := do
  match sessionOfQuery r.query with
  | .error () => return plain 400 "Failed to deserialize query string"
  | .ok session => return json 200 (historyValue (← Ask.Service.history session))

/-- Forgets a session. -/
def clear (r : Request) : Run σ Response := do
  let session := match bodyOf r sessionOfTree with
    | .ok session => session
    | .error _ => none
  Ask.Service.forget session
  return acknowledged

end Tutor.Server
