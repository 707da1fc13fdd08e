import Tutor.Text.Letter

/-!
# Paths

A path is read from text: its names in order, whether it starts at the root, and whether it can only
mean a folder. Names of a single dot are passed over, as are empty ones.
-/

namespace Tutor

open Tutor.Text

/-- A path in a file system. -/
structure Path where
  /-- Whether the path starts at the root. -/
  rooted : Bool
  /-- The names, two dots among them. -/
  names : List String
  /-- Whether the text ends in a way that only a folder can be meant. -/
  isFolder : Bool
  /-- Whether the text ends in a single dot behind a slash, which must stand for a folder that is
  there. -/
  endsInDot : Bool := false
deriving DecidableEq, Repr

namespace Path

/-- Whether a name stands for the place that was reached. -/
def staysHere (name : List Char) : Bool := name.isEmpty || name == ['.']

/-- The path that a text means. -/
def ofText (s : String) : Path where
  rooted := s.toList.head? == some '/'
  names :=
    ((splitWhere (· == '/') s.toList).filter (fun n => !staysHere n)).map String.ofList
  isFolder := !s.isEmpty && ((splitWhere (· == '/') s.toList).getLast?.any staysHere)
  endsInDot := (splitWhere (· == '/') s.toList).getLast? == some ['.']

/-- Whether the path is the empty text, which leads nowhere. -/
def isEmpty (p : Path) : Bool := !p.rooted && p.names.isEmpty && !p.isFolder

/-- The path to the folder above, unless there is none. -/
def parent? (p : Path) : Option Path :=
  if p.names.isEmpty && (p.rooted || p.isEmpty) then none
  else some { p with names := p.names.dropLast, isFolder := false, endsInDot := false }

/-- The number of bytes that the text of the path takes, written without detours. -/
def size (p : Path) : Nat :=
  p.names.foldl (fun n name => n + name.utf8ByteSize + 1) 0 + (if p.rooted then 1 else 0) +
    (if p.isFolder then 1 else 0) - 1

/-- The text of a folder, continued by a name. A name that starts at the root stands for itself. -/
def join (folder name : String) : String :=
  if name.toList.head? == some '/' || folder.isEmpty then name
  else if folder.toList.getLast? == some '/' then folder ++ name
  else folder ++ "/" ++ name

end Path

end Tutor
