import Tutor.Number.Spelling

/-!
# Command lines

A command line names a command. Switches in front of the name concern the program, those behind it
the command; a switch with a value takes it from the same argument or from the next one. A value is
looked at only when the next switch or the end is reached, so that a problem further on may be told
first.
-/

namespace Tutor.Command

/-! ### What command lines mean -/

/-- A question that is asked on the command line. -/
structure Question where
  /-- The question. -/
  text : String
  /-- The language of the answer. -/
  language : String := "English"
  /-- The session. -/
  session : Option String := none
  /-- Whether a summary and an example are wanted. -/
  simplify : Bool := true
  /-- Whether audio is wanted. -/
  audio : Bool := false
deriving DecidableEq, Repr

end Tutor.Command

namespace Tutor

/-- What the program is to do. -/
inductive Command where
  /-- To serve, at a host and a port other than the configured ones if they are named. -/
  | serve (host : Option String) (port : Option Nat)
  /-- To answer a question. -/
  | ask (question : Command.Question)
deriving DecidableEq, Repr

namespace Command

open Tutor.Text

/-- What a command line means. -/
structure Invocation where
  /-- The file that holds the settings. -/
  settingsFile : String := "config/config.yaml"
  /-- Whether much is logged. -/
  verbose : Bool := false
  /-- Whether logs are JSON. -/
  jsonLogs : Bool := false
  /-- The command. -/
  command : Command := .serve none none
deriving DecidableEq, Repr

/-- Why a command line is not carried out. -/
inductive Usage where
  /-- Help is asked for. -/
  | help
  /-- The version is asked for. -/
  | version
  /-- There is nothing on the command line; help is shown. -/
  | nothing
  /-- No command is named. -/
  | noCommand
  /-- What is named is no command. -/
  | unknownCommand
  /-- There is no such argument. -/
  | unknownArgument
  /-- An argument is missing. -/
  | missingArgument
  /-- An argument is repeated. -/
  | repeated
  /-- A switch has no value. -/
  | noValue
  /-- A switch has a value although it takes none. -/
  | surplusValue
  /-- A value is not acceptable. -/
  | invalidValue
deriving DecidableEq, Repr

/-! ### Switches -/

/-- What an argument is about. -/
inductive Key where
  | config | verbose | jsonLogs | host | port | language | session | noSimplify | audio | question
  | help | version
deriving DecidableEq, Repr

/-- A switch. -/
structure Switch where
  /-- What it is about. -/
  key : Key
  /-- Its long name. -/
  long : String
  /-- Its short name. -/
  short : Option Char := none
  /-- Whether it takes a value. -/
  takesValue : Bool := false

/-- Where switches stand: in front of the command, or behind the name of one. -/
inductive Level where
  /-- In front of the command. -/
  | program
  /-- Behind `serve`. -/
  | serve
  /-- Behind `ask`. -/
  | ask
deriving DecidableEq, Repr

namespace Level

/-- The switches that may stand there. -/
def switches : Level → List Switch
  | program =>
    [ ⟨.config, "config", some 'c', true⟩, ⟨.verbose, "verbose", some 'v', false⟩,
      ⟨.jsonLogs, "json-logs", none, false⟩, ⟨.help, "help", some 'h', false⟩,
      ⟨.version, "version", some 'V', false⟩ ]
  | serve =>
    [ ⟨.host, "host", none, true⟩, ⟨.port, "port", some 'p', true⟩,
      ⟨.help, "help", some 'h', false⟩ ]
  | ask =>
    [ ⟨.language, "language", some 'l', true⟩, ⟨.session, "session", some 's', true⟩,
      ⟨.noSimplify, "no-simplify", none, false⟩, ⟨.audio, "audio", none, false⟩,
      ⟨.help, "help", some 'h', false⟩ ]

/-- The arguments without a switch that may stand there, in order. -/
def operands : Level → List Key
  | ask => [.question]
  | _ => []

/-- The names of the commands that may stand there. -/
def commands : Level → List (String × Level)
  | program => [("serve", serve), ("ask", ask)]
  | _ => []

/-- Whether a name stands for a command there, or for the help on commands. -/
def knows (l : Level) (name : String) : Bool :=
  l == program && (name == "help" || l.commands.any (·.1 == name))

end Level

/-! ### Arguments -/

/-- An argument that was met: what it is about, and its value if it has one. -/
structure Given where
  /-- What it is about. -/
  key : Key
  /-- The value. -/
  value : Option String := none
deriving DecidableEq, Repr

/-- What was read of the arguments of a level. -/
structure Arguments where
  /-- The arguments that count. -/
  given : List Given := []
  /-- An argument that is still to be looked at, and whether it takes a value. -/
  pending : Option (Given × Bool) := none
  /-- Whether the next argument is the value of the pending one. -/
  awaits : Bool := false
  /-- Whether all that follows is without switches. -/
  closed : Bool := false
  /-- The arguments without a switch that may still come. -/
  operands : List Key
deriving Repr

namespace Arguments

/-- The value of an argument. -/
def value? (a : Arguments) (k : Key) : Option String := (a.given.find? (·.key == k)).bind (·.value)

/-- Whether an argument is given. -/
def has (a : Arguments) (k : Key) : Bool := a.given.any (·.key == k)

/-- The port that a text names, with a sign or none. -/
def port? (s : String) : Option Nat := do
  let (negative, ds) := Number.Spelling.sign s.toList
  if ds.isEmpty then none
  let n ← numeral? 10 ds
  if (negative && n != 0) || 65536 ≤ n then none else some n

/-- Whether a value is acceptable. -/
def accepts : Key → Option String → Bool
  | .port, some s => (port? s).isSome
  | _, _ => true

/-- Takes an argument into account. -/
def take (a : Arguments) (g : Given) (takesValue : Bool) : Except Usage Arguments :=
  if g.key == .help then .error .help
  else if g.key == .version then .error .version
  else if takesValue && g.value.isNone then .error .noValue
  else if a.has g.key then .error .repeated
  else if accepts g.key g.value then .ok { a with given := a.given ++ [g] }
  else .error .invalidValue

/-- Takes the pending argument into account. -/
def settle (a : Arguments) : Except Usage Arguments :=
  match a.pending with
  | some (g, takesValue) => { a with pending := none }.take g takesValue
  | none => .ok a

/-- Takes a switch into account, with the value in the same argument if there is one. -/
def switch (a : Arguments) (s : Switch) (attached : Option String) : Except Usage Arguments := do
  let a ← a.settle
  if s.takesValue && attached.isNone then
    return { a with pending := some (⟨s.key, none⟩, true), awaits := true }
  else return { ← a.take ⟨s.key, attached⟩ s.takesValue with awaits := false }

/-- A switch by its long name, and what follows an equals sign. -/
def long (l : Level) (a : Arguments) (text : List Char) : Except Usage Arguments :=
  let (name, attached) := match cutAt? (· == '=') text with
    | some (name, value) => (String.ofList name, some (String.ofList value))
    | none => (String.ofList text, none)
  match l.switches.find? (·.long == name) with
  | none => .error .unknownArgument
  | some s =>
    if !s.takesValue && attached.isSome then .error .surplusValue else a.switch s attached

/-- Switches by their short names. The first that takes a value takes all that follows it, less an
equals sign in front. -/
def short (l : Level) : Arguments → List Char → Except Usage Arguments
  | a, [] => .ok a
  | a, c :: rest =>
    match l.switches.find? (·.short == some c) with
    | none => .error .unknownArgument
    | some s =>
      if s.takesValue then
        a.switch s (match rest with
          | [] => none
          | '=' :: value => some (String.ofList value)
          | value => some (String.ofList value))
      else do short l (← a.switch s none) rest

/-- An argument without a switch. -/
def operand (l : Level) (a : Arguments) (text : String) : Except Usage Arguments :=
  match a.operands with
  | k :: more => do
    let a ← a.settle
    return { a with pending := some (⟨k, some text⟩, false), operands := more }
  | [] =>
    .error (if l == .program && !(a.closed && l.knows text) then .unknownCommand
      else .unknownArgument)

end Arguments

/-- What ends the arguments of a level: the name of a command and what follows it, or nothing. -/
abbrev Continuation := Option (Level × List String)

/-- Whether help on some commands can be given. -/
def helpOn : List String → Usage
  | [] => .help
  | [name] => if Level.program.knows name then .help else .unknownCommand
  | _ => .unknownCommand

/-- The arguments of a level, and the command that follows them. -/
def read (l : Level) : List String → Arguments → Except Usage (Arguments × Continuation)
  | [], a => do return (← a.settle, none)
  | text :: more, a =>
    if a.closed then do read l more (← a.operand l text)
    else if !a.awaits && l.knows text then
      match l.commands.find? (·.1 == text) with
      | some (_, next) => do return (← a.settle, some (next, more))
      | none => .error (helpOn more)
    else
      match text.toList with
      | ['-', '-'] => read l more { a with closed := true }
      | '-' :: '-' :: name => do read l more (← a.long l name)
      | '-' :: c :: rest => do read l more (← a.short l (c :: rest))
      | _ =>
        match a.awaits, a.pending with
        | true, some (g, takesValue) =>
          read l more
            { a with pending := some ({ g with value := some text }, takesValue), awaits := false }
        | _, _ => do read l more (← a.operand l text)

/-! ### Invocations -/

/-- The command behind its name. -/
def commandOf (l : Level) (args : List String) : Except Usage Command := do
  let (a, _) ← read l args { operands := l.operands }
  match l with
  | .ask =>
    match a.value? .question with
    | some text =>
      return .ask
        { text
          language := (a.value? .language).getD "English"
          session := a.value? .session
          simplify := !a.has .noSimplify
          audio := a.has .audio }
    | none => .error .missingArgument
  | _ => return .serve (a.value? .host) ((a.value? .port).bind Arguments.port?)

/-- What a command line means, the name of the program aside. -/
def Invocation.ofArguments (args : List String) : Except Usage Invocation := do
  let (a, next) ← read .program args { operands := [] }
  match next with
  | some (l, more) =>
    return {
      settingsFile := (a.value? .config).getD ({} : Invocation).settingsFile
      verbose := a.has .verbose
      jsonLogs := a.has .jsonLogs
      command := ← commandOf l more }
  | none => .error (if a.given.isEmpty then .nothing else .noCommand)

end Command

end Tutor
