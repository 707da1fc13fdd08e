import Tutor.Command.Serve
import Tutor.Settings.Environment
import Tutor.Settings.Validity

/-!
# The program

The command line is read first, then the settings: those of the file, overridden by the environment,
overridden by the command line. If they are of use, the command is carried out.
-/

namespace Tutor.Command

open Tutor.Text

/-! ### Settings -/

/-- The settings with those of the command line taken over. -/
def Invocation.override (i : Invocation) (s : Settings) : Settings :=
  match i.command with
  | .serve host port =>
    { s with server := ⟨host.getD s.server.host, port.getD s.server.port⟩ }
  | .ask _ => s

/-- The settings of a file. Without a file all defaults hold. -/
def settingsOf (d : Disk) (path : String) : Except Fault Settings :=
  if d.exists? (Path.ofText path) then
    match d.contents (Path.ofText path) with
    | .error e => .error (.configuration ("Failed to read config file: " ++ e.message))
    | .ok bytes =>
      match text? bytes with
      | none =>
        .error (.configuration "Failed to read config file: stream did not contain valid UTF-8")
      | some text =>
        match Settings.ofText? text with
        | some s => .ok s
        | none => .error (.configuration "Failed to parse config: invalid document")
  else .ok {}

/-- The settings that hold for an invocation. -/
def Invocation.settings (i : Invocation) (d : Disk) (e : Settings.Environment) :
    Except Fault Settings :=
  (settingsOf d i.settingsFile).map fun s => i.override (s.withEnvironment e)

/-! ### Help -/

/-- The name and the version of the program. -/
def versionText : String := "learnify 0.1.0\n"

/-- How the program is used. -/
def helpText : String :=
  "Usage: learnify [OPTIONS] <COMMAND>\n\nCommands:\n" ++
  "  serve  Start the HTTP service\n" ++
  "  ask    Ask a single question and print the answer\n" ++
  "  help   Print this message\n\nOptions:\n" ++
  "  -c, --config <CONFIG>  Path to configuration file [default: config/config.yaml]\n" ++
  "  -v, --verbose          Enable verbose logging\n" ++
  "      --json-logs        Emit logs as JSON lines\n" ++
  "  -h, --help             Print help\n" ++
  "  -V, --version          Print version\n"

/-- What is wrong with a command line, in words. -/
def Usage.message : Usage → String
  | help | version | nothing => helpText
  | noCommand => "a command is required\n"
  | unknownCommand => "there is no such command\n"
  | unknownArgument => "there is no such argument\n"
  | missingArgument => "an argument is missing\n"
  | repeated => "an argument is repeated\n"
  | noValue => "an option has no value\n"
  | surplusValue => "an option takes no value\n"
  | invalidValue => "the value of an option is invalid\n"

/-! ### Running -/

/-- What the program leaves behind: its status and what it writes. -/
structure Finish where
  /-- The status. -/
  status : Nat := 0
  /-- What it writes. -/
  output : String := ""
  /-- What it complains. -/
  complaint : String := ""
deriving DecidableEq, Repr

/-- The finish after a problem with the command line. -/
def Usage.finish : Usage → Finish
  | help => { output := helpText }
  | version => { output := versionText }
  | u => { status := 2, complaint := u.message }

/-- The finish after a fault. -/
def Finish.ofFault (f : Fault) : Finish :=
  { status := 1, complaint := "Error: " ++ f.message ++ "\n" }

/-- What becomes of a program: it ends, or it goes on to serve. -/
inductive Continued (σ : Type) where
  /-- It ends. -/
  | finished (f : Finish)
  /-- It serves. -/
  | serving (s : Server.Site σ)

variable {σ : Type}

/-- Carries out a command. -/
def carryOut [Outside σ] (s : Settings) (c : Command) (colours : Bool) :
    Run σ (Continued σ) := do
  match c with
  | .ask q =>
    match ← q.ask s colours with
    | .error e => return .finished (.ofFault e)
    | .ok text => return .finished { output := text }
  | .serve .. =>
    match ← startServer s with
    | .error e => return .finished (.ofFault e)
    | .ok site => return .serving site

/-- Runs the program. -/
def run [Outside σ] (args : List String) (e : Settings.Environment) (isTerminal : Bool) :
    Run σ (Continued σ) := do
  match Invocation.ofArguments args with
  | .error u => return .finished u.finish
  | .ok i =>
    match i.settings (← get).disk e with
    | .error f => return .finished (.ofFault f)
    | .ok s =>
      match s.validate with
      | .error f => return .finished (.ofFault f)
      | .ok () => carryOut s i.command (showsColours e isTerminal)

end Tutor.Command
