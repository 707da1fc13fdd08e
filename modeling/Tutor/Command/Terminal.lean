import Tutor.Settings.Environment

/-!
# Text on a terminal

Headings and warnings are set off by colours where the terminal shows colours.
-/

namespace Tutor.Command

open Tutor.Text

/-- How a text is set off. -/
inductive Paint where
  /-- A heading. -/
  | heading
  /-- Good news. -/
  | success
  /-- A warning. -/
  | warning
deriving DecidableEq, Repr

namespace Paint

/-- The control sequence that begins a paint. -/
def start : Paint → List Char
  | heading => "\x1b[1;36m".toList
  | success => "\x1b[1;32m".toList
  | warning => "\x1b[33m".toList

/-- The control sequence that ends every paint. -/
def stop : List Char := "\x1b[0m".toList

/-- A text in which the paint begins again wherever a paint ends. -/
def resumed (p : Paint) : List Char → List Char
  | '\x1b' :: '[' :: '0' :: 'm' :: rest => stop ++ p.start ++ p.resumed rest
  | c :: rest => c :: p.resumed rest
  | [] => []

/-- A text set off, if the terminal shows colours. -/
def apply (p : Paint) (colours : Bool) (s : String) : String :=
  if colours then String.ofList (p.start ++ p.resumed s.toList ++ stop) else s

end Paint

/-- Whether texts are coloured. The environment may ask for colours or against them; otherwise a
terminal shows them. -/
def showsColours (e : Settings.Environment) (isTerminal : Bool) : Bool :=
  if (e.text? "CLICOLOR_FORCE").any (· != "0") then true
  else if (e.text? "NO_COLOR").isSome then false
  else isTerminal && (e.text? "CLICOLOR").all (· != "0")

end Tutor.Command
