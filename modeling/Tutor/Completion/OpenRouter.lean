import Tutor.Completion.Basic
import Tutor.Http.Client
import Tutor.Http.MediaType
import Tutor.Http.Status
import Tutor.Json.Decode
import Tutor.Json.Value
import Tutor.Settings.Basic

/-!
# OpenRouter

The language models of OpenRouter are reached over the web. A call is posted as JSON under a
credential; a completion is read from the answer, and an answer that is none is told apart by its
status.
-/

namespace Tutor.Completion

open Tutor.Http Tutor.Json Tutor.Text

/-- The name of the credential. -/
def credentialName : String := "OPENROUTER_API_KEY"

/-! ### Calls as JSON -/

/-- A call as JSON. A temperature that is no finite number is written as null. -/
def callValue (c : Call) : Value :=
  .object
    [ ("model", .text c.model),
      ("messages", .array (c.messages.map fun m =>
        .object [("role", .text m.speaker.name), ("content", .text m.content)])),
      ("temperature", match c.temperature.literal? with
        | some literal => .number literal
        | none => .null) ]

/-! ### Completions from JSON -/

/-- What is read of a message: its text, if it has one. -/
def contentOf (t : Tree) : Decoded (Option String) :=
  t.record [⟨"content", fun t _ => t.optional Tree.string⟩] none

/-- What is read of a choice: its message, which it must have. -/
def choiceOf (t : Tree) : Decoded (Option String) := do
  required (← t.record [⟨"message", fun t _ => do return some (← contentOf t)⟩] none)

/-- A count of tokens. -/
def countOf (t : Tree) : Decoded UInt64 := do return UInt64.ofNat (← t.natural)

/-- What is read of the usage: two counts, zero where they are missing. -/
def usageOf (t : Tree) : Decoded Usage := do
  let (p, c) ← t.record
    [ ⟨"prompt_tokens", fun t u => do return (← countOf t, u.2)⟩,
      ⟨"completion_tokens", fun t u => do return (u.1, ← countOf t)⟩ ] ((0, 0) : UInt64 × UInt64)
  return .ofCounts p c

/-- What is read of an answer. -/
structure Parts where
  /-- The texts of the choices. -/
  choices : List (Option String) := []
  /-- The usage. -/
  usage : Option Usage := none

/-- The parts of an answer. -/
def partsOf (t : Tree) : Decoded Parts :=
  t.record
    [ ⟨"choices", fun t p => do return { p with choices := ← t.list choiceOf }⟩,
      ⟨"usage", fun t p => do return { p with usage := ← t.optional usageOf }⟩ ] {}

/-- The completion of an answer: the text of the first choice, without blanks around it. -/
def Parts.reply (p : Parts) : Reply where
  message := ⟨.assistant, trimmed (p.choices.head?.join.getD "")⟩
  usage := p.usage

/-! ### The exchange -/

/-- The credential, unless it is blank. -/
def key? (s : Settings.OpenRouter) : Option String := s.apiKey.filter fun k => !isBlankText k

/-- The address that calls are posted to. -/
def address (s : Settings.OpenRouter) : List Char :=
  dropTrailing (· == '/') s.apiBase.toList ++ "/chat/completions".toList

/-- Whether bytes can stand in a header field. -/
def isFieldValue (bs : List UInt8) : Bool := bs.all fun b => b == 9 || (32 ≤ b && b != 127)

/-- The redirects that are followed: ten, to anywhere. -/
def policy : Policy := ⟨10, fun _ => true⟩

/-- The request of a call, unless it cannot be sent. -/
def request? (s : Settings.OpenRouter) (key : String) (c : Call) : Except String Request :=
  match Url.ofChars none (address s) with
  | .error why => .error why.message
  | .ok u =>
    let bearer := bytesOf ("Bearer " ++ key)
    if isFieldValue bearer then
      .ok
        { method := .post
          url := u
          header :=
            [ ⟨"authorization", bearer⟩, field "x-title" "Learnify",
              field "content-type" "application/json", field "user-agent" "learnify/0.1.0",
              field "accept" "*/*" ]
          body := some (bytesOf (callValue c).render)
          timeout := s.timeout * 1000 }
    else .error "failed to parse header value"

/-- The text of an answer that is no completion; one that broke off has none. -/
def errorText (r : Response) : String :=
  if r.isWhole then (((r.header.mediaType?).map MediaType.charset).getD .utf8).text r.body else ""

/-- The completion that an answer holds. -/
def replyOf (r : Response) : Except Fault Reply :=
  if r.status == 401 then
    .error (.authentication ("OpenRouter rejected the API key: " ++ errorText r))
  else if !(200 ≤ r.status && r.status < 300) then
    .error (.provider
      ("OpenRouter returned error " ++ statusText r.status ++ ": " ++ errorText r))
  else if !r.isWhole then
    .error (.provider "Failed to parse OpenRouter response: error decoding response body")
  else
    match (Document.ofBytes r.body).decode partsOf with
    | .ok p => .ok p.reply
    | .error _ =>
      .error (.provider "Failed to parse OpenRouter response: error decoding response body")

/-- Completes messages. -/
def complete [Outside σ] (s : Settings.OpenRouter) (c : Call) : Errand σ (Except Fault Reply) := do
  match key? s with
  | none => return .error (.credential credentialName)
  | some key =>
    match request? s key c with
    | .error why => return .error (.provider ("Failed to reach OpenRouter: " ++ why))
    | .ok r =>
      match ← policy.send r with
      | .error why => return .error (.provider ("Failed to reach OpenRouter: " ++ why.message))
      | .ok response => return replyOf response

/-- The provider of some settings. -/
def openRouter [Outside σ] (s : Settings.OpenRouter) : Provider σ where
  isConfigured := (key? s).isSome
  credential := credentialName
  complete := complete s

end Tutor.Completion
