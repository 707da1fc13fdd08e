import Tutor.Errand
import Tutor.Http.Address

/-!
# Following redirects

A request is sent, and if the answer redirects, sent on to where the answer points, as long as the
policy of the caller allows it. Where the answer points at nothing that is an address, it is final.
-/

namespace Tutor.Http

open Tutor

/-- Which redirects are followed. -/
structure Policy where
  /-- How many. -/
  limit : Nat
  /-- Where to. -/
  allows : Url → Bool

/-- Why a request got no final answer. -/
inductive Failure where
  /-- The request cannot be sent at all. -/
  | unsendable (reason : String)
  /-- No answer came. -/
  | unreachable (reason : String)
  /-- There were too many redirects. -/
  | tooManyRedirects (limit : Nat)
  /-- A redirect leads to a place that the policy does not allow. -/
  | notAllowed (url : Url)
deriving DecidableEq, Repr

/-- The failure in words. -/
def Failure.message : Failure → String
  | unsendable r => "request cannot be sent: " ++ r
  | unreachable r => "error sending request: " ++ r
  | tooManyRedirects n => "too many redirects (max " ++ toString n ++ ")"
  | notAllowed u => "redirect to " ++ u.render ++ " is not allowed"

/-- Whether requests can go to a URL at all. -/
def isWeb (u : Url) : Bool := u.scheme == "http" || u.scheme == "https"

/-- The statuses that redirect. -/
def isRedirect (status : Nat) : Bool :=
  status == 301 || status == 302 || status == 303 || status == 307 || status == 308

/-- Where an answer redirects to, read relative to where the request went. -/
def target? (start : Url) (r : Response) : Option Url :=
  if isRedirect r.status then
    match (r.header.first? "location").bind (fun v => (Text.decode v).mapM id) with
    | some place =>
      match Url.ofChars (some start) place with
      | .ok u => if isAddress u then some u else none
      | .error _ => none
    | none => none
  else none

/-- The header field that names the place a request was sent on from, unless that would give away
a place reached by https. -/
def referer (start next : Url) : Header :=
  if start.scheme == "https" && next.scheme == "http" then []
  else [field "referer" start.withoutCredentials.render]

/-- The request that a redirect leads to. Three of the statuses turn it into one that asks, without
a body. Credentials go no further than the server they were meant for. -/
def redirected (r : Request) (status : Nat) (next : Url) : Request :=
  let asks := status == 301 || status == 302 || status == 303
  let sameServer := r.url.host == next.host && r.url.effectivePort? == next.effectivePort?
  let header := r.header.without
    ((if asks then ["content-type", "content-length", "content-encoding", "transfer-encoding"]
      else []) ++
      (if sameServer then [] else ["authorization", "cookie", "proxy-authorization"]) ++
      ["referer"])
  { r with
    method := if asks then .get else r.method
    url := next
    header := header ++ referer r.url next
    body := if asks then none else r.body }

/-- Sends a request and follows at most `left` redirects. -/
def send [Outside σ] (p : Policy) (left : Nat) (r : Request) :
    Errand σ (Except Failure Response) := do
  if !isWeb r.url then return .error (.unsendable "URL scheme is not allowed")
  match ← Errand.exchange r with
  | .failed reason => return .error (.unreachable reason)
  | .answered response =>
    match target? r.url response with
    | none => return .ok response
    | some next =>
      match left with
      | 0 => return .error (.tooManyRedirects p.limit)
      | left + 1 =>
        if p.allows next then send p left (redirected r response.status next)
        else return .error (.notAllowed next)

/-- Sends a request and follows redirects as the policy allows. -/
def Policy.send [Outside σ] (p : Policy) (r : Request) : Errand σ (Except Failure Response) :=
  Http.send p p.limit r

end Tutor.Http
