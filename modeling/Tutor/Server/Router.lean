import Tutor.Server.Folder
import Tutor.Server.Lesson

/-!
# The server

Four paths belong to lessons, and the paths below a prefix to the audio files. Pages of any origin
may read the answers, and may ask beforehand whether they may.
-/

namespace Tutor.Server

open Tutor.Http Tutor.Text

/-- The paths that belong to lessons. -/
inductive Route where
  /-- Asks a question. -/
  | ask
  /-- Reads a session. -/
  | history
  /-- Clears a session. -/
  | clear
  /-- Tells that the server is up. -/
  | health
deriving DecidableEq, Repr

namespace Route

/-- All routes. -/
def all : List Route := [ask, history, clear, health]

/-- The path of a route. -/
def path : Route → String
  | ask => "/api/learnify"
  | history => "/api/learnify/history"
  | clear => "/api/learnify/clear"
  | health => "/health"

/-- The route of a path. -/
def ofPath? (p : String) : Option Route := all.find? (·.path == p)

/-- The methods that a route takes. -/
def methods : Route → List String
  | ask | clear => ["POST"]
  | history | health => ["GET", "HEAD"]

end Route

/-- What a server serves. -/
structure Site (σ : Type) where
  /-- Answers questions. -/
  service : Ask.Service σ
  /-- The folder of the audio files. -/
  folder : String
  /-- The path below which they are served; slashes around it count for nothing. In a part of it, a
  colon stands for any text that is not empty. -/
  served : String

/-- The site of some settings, around a service. -/
def Site.of (s : Settings) (service : Ask.Service σ) : Site σ :=
  ⟨service, s.audio.folder, s.audio.served⟩

/-! ### Prefixes -/

/-- The parts of a path between slashes, behind the first. -/
def partsOf (path : List Char) : List (List Char) := splitWhere (· == '/') (path.drop 1)

/-- Whether a part of a path fits a part of a prefix. -/
def fits (pattern part : List Char) : Bool :=
  match cutAt? (· == ':') pattern with
  | some (front, _) => front.isPrefixOf part && front.length < part.length
  | none => part == pattern

/-- Whether a part of a path is left out together with the part of a prefix that it fits. Where a
colon stands behind something else, the path is kept whole. -/
def isLeftOut (pattern part : List Char) : Bool := pattern.head? == some ':' || part == pattern

/-- The path below a prefix, given by its parts, if a path is one. -/
def below? (patterns : List (List Char)) (path : String) : Option String :=
  let parts := partsOf path.toList
  let front := patterns.zip parts
  if parts.length < patterns.length || !front.all (fun (p, part) => fits p part) then none
  else if !front.all (fun (p, part) => isLeftOut p part) then some path
  else
    let rest := joinWith ['/'] (parts.drop patterns.length)
    some (String.ofList (if rest.head? == some '/' then rest else '/' :: rest))

namespace Site

variable {σ : Type}

/-- Answers a request on a route, by a method that the route takes. -/
def onRoute [Outside σ] (s : Site σ) (r : Request) : Route → Run σ Response
  | .ask => Server.ask s.service r
  | .history => Server.history r
  | .clear => Server.clear r
  | .health => return acknowledged

/-- Answers a request that belongs to no route. -/
def elsewhere (s : Site σ) (r : Request) : Run σ Response :=
  let served := strip (· == '/') s.served.toList
  let path? := if served.isEmpty then some r.path
    else below? (splitWhere (· == '/') served) r.path
  match path? with
  | some path => serveFolder (Path.ofText s.folder) { r with path }
  | none => return bare 404

/-- Answers a request, its origin and the shortcut for `HEAD` aside. -/
def dispatch [Outside σ] (s : Site σ) (r : Request) : Run σ Response := do
  let asksFirst := r.method == "OPTIONS"
  match Route.ofPath? r.path with
  | some route =>
    if route.methods.contains r.method then s.onRoute r route
    else
      let refused := notAllowed (",".intercalate route.methods)
      return if asksFirst then { refused with status := 200 } else refused
  | none => if asksFirst then return bare 200 else s.elsewhere r

/-- Answers a request. Whatever the answer, pages of any origin may read it; to a request for the
header alone it has no body. -/
def answer [Outside σ] (s : Site σ) (r : Request) : Run σ Response := do
  let response ← s.dispatch r
  return {
    response with
    header := response.header ++ [field "access-control-allow-origin" "*"]
    body := if r.method == "HEAD" then [] else response.body }

end Site

end Tutor.Server
