import Tutor.Command.Ask
import Tutor.Server.Router

/-!
# Serving

The server is started on the address that the settings name, once there is a folder for its audio
files.
-/

namespace Tutor.Command

variable {σ : Type}

/-- The address that the server listens on. -/
def addressOf (s : Settings) : String := s.server.host ++ ":" ++ toString s.server.port

/-- Starts the server. -/
def startServer [Outside σ] (s : Settings) : Run σ (Except Fault (Server.Site σ)) := do
  match ← makeFolder s with
  | .error e => return .error e
  | .ok () =>
    match ← Run.errand (Errand.listen (addressOf s)) with
    | some why =>
      return .error (.configuration ("Failed to bind " ++ addressOf s ++ ": " ++ why))
    | none => return .ok (.of s (Ask.Service.ofSettings s))

end Tutor.Command
