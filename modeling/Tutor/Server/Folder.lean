import Tutor.Server.FileType
import Tutor.Server.Message
import Tutor.Url.Percent
import Tutor.World

/-!
# Serving a folder

The files of a folder are served under the paths that lead to them. A path must not lead out of the
folder. A folder inside it is served by its index.
-/

namespace Tutor.Server

open Tutor.Http Tutor.Text

/-! ### Paths -/

/-- The names that a path leads through, unless it leads out of the folder. -/
def namesOf? (path : String) : Option (List String) := do
  let text ← text? (Url.decodeBytes (path.toList.dropWhile (· == '/')))
  let p := Path.ofText text
  if p.rooted || p.names.contains ".." then none else some p.names

/-- Where a request for a folder is sent instead: to the path with a slash behind it. -/
def withSlash (path : String) (query : Option String) : String :=
  path ++ "/" ++ (match query with
    | some q => "?" ++ q
    | none => "")

/-- The answer with a file. -/
def fileAnswer (place : Place) (bytes : List UInt8) : Response where
  status := 200
  header := [field "content-type" (fileType (place.getLast?.getD ""))]
  body := bytes

/-- The answer for a path that leads nowhere. A name that no path may hold counts as missing only
where a file has to be opened. -/
def failedAnswer (opens : Bool) : Disk.Problem → Response
  | .invalid => bare (if opens then 404 else 500)
  | .tooLong => bare 500
  | _ => bare 404

/-- The answer with what stands at a path below a folder, for a request. A folder that stands in the
place of an index is an empty file. -/
def answerFrom (d : Disk) (folder : Path) (r : Request) : Response :=
  match namesOf? r.path with
  | none => bare 404
  | some names =>
    let spot (names : List String) : Path :=
      { folder with names := folder.names ++ names, isFolder := false }
    let fileAt (names : List String) : Response :=
      match d.locate (spot names) with
      | .file place bytes => fileAnswer place bytes
      | .folder place => fileAnswer place []
      | .vacant _ => bare 404
      | .nowhere why => failedAnswer (r.method == "GET") why
    match d.locate (spot names) with
    | .folder _ =>
      if r.path.isEmpty || r.path.toList.getLast? == some '/' then fileAt (names ++ ["index.html"])
      else bare 307 [⟨"location", bytesOf (withSlash r.path r.query)⟩]
    | _ => fileAt names

variable {σ : Type}

/-- Serves a folder. -/
def serveFolder (folder : Path) (r : Request) : Run σ Response := do
  if r.method == "GET" || r.method == "HEAD" then
    return answerFrom (← get).disk folder r
  else return notAllowed "GET,HEAD"

end Tutor.Server
