import Std.Data.HashMap
import Tutor.Disk.Path

/-!
# Disks

A disk holds files and folders under places, a place being the names that lead to it from the root.
The root is a folder. Paths are followed from the root or from the place where the program runs.
Some folders may not be searched, and some are on a file system that is read-only.
-/

namespace Tutor

/-- The names that lead to a file or folder from the root. -/
abbrev Place := List String

/-- What stands at a place. -/
inductive Entry where
  /-- A file with its bytes. -/
  | file (bytes : List UInt8)
  /-- A folder. -/
  | folder
deriving DecidableEq, Repr

/-- The files and folders of a machine. -/
structure Disk where
  /-- What stands where; the root goes without saying. -/
  entries : Std.HashMap Place Entry := ∅
  /-- The place where paths start that do not start at the root. -/
  here : Place := []
  /-- The folders that may not be searched: nothing can be looked up in them. -/
  closed : List Place := []
  /-- The folders on a file system that is read-only: nothing can be made or removed in them. -/
  fixed : List Place := []

/-- Why a file operation is refused. -/
inductive Disk.Problem where
  /-- Nothing is there, or a folder on the way is missing. -/
  | missing
  /-- A file stands where a folder is needed. -/
  | notFolder
  /-- A folder stands where a file is needed. -/
  | isFolder
  /-- A file stands where a folder is to be made. -/
  | occupied
  /-- A name or the whole path is too long. -/
  | tooLong
  /-- The path holds a character that no path may hold. -/
  | invalid
  /-- A folder on the way may not be searched. -/
  | forbidden
  /-- What would change is on a file system that is read-only. -/
  | readOnly
deriving DecidableEq, Repr

namespace Disk

/-- The problem in words. -/
def Problem.message : Problem → String
  | missing => "No such file or directory (os error 2)"
  | notFolder => "Not a directory (os error 20)"
  | isFolder => "Is a directory (os error 21)"
  | occupied => "File exists (os error 17)"
  | tooLong => "File name too long (os error 36)"
  | invalid => "file name contained an unexpected NUL byte"
  | forbidden => "Permission denied (os error 13)"
  | readOnly => "Read-only file system (os error 30)"

/-- What stands at a place. -/
def at? (d : Disk) (p : Place) : Option Entry :=
  if p.isEmpty then some .folder else d.entries[p]?

/-- The bytes of the file at a place. -/
def file? (d : Disk) (p : Place) : Option (List UInt8) :=
  match d.at? p with
  | some (.file bytes) => some bytes
  | _ => none

/-- Puts a file or folder at a place. -/
def put (d : Disk) (p : Place) (e : Entry) : Disk := { d with entries := d.entries.insert p e }

/-- Takes away what stands at a place. -/
def erase (d : Disk) (p : Place) : Disk := { d with entries := d.entries.erase p }

/-- Whether nothing can be looked up in the folder at a place. -/
def isClosed (d : Disk) (p : Place) : Bool := d.closed.contains p

/-- Whether nothing can be made or removed at a place, for its folder is on a read-only file
system. -/
def isFixed (d : Disk) (p : Place) : Bool := d.fixed.contains p.dropLast

/-! ### Following paths -/

/-- Where a path leads. -/
inductive Spot where
  /-- To a file. -/
  | file (place : Place) (bytes : List UInt8)
  /-- To a folder. -/
  | folder (place : Place)
  /-- To a place where nothing stands, in a folder. -/
  | vacant (place : Place)
  /-- Nowhere. -/
  | nowhere (why : Problem)
deriving DecidableEq, Repr

/-- The most bytes that a name takes. -/
def longestName : Nat := 255

/-- The most bytes that a path takes. -/
def longestPath : Nat := 4095

/-- What is wrong with a path whatever is on the disk. -/
def flaw? (path : Path) : Option Problem :=
  if path.names.any (·.toList.contains '\x00') then some .invalid
  else if longestPath < path.size then some .tooLong
  else none

/-- Follows names from a folder. Each is looked up in the folder that was reached, two dots too. -/
def follow (d : Disk) (mustBeFolder : Bool) : Place → List String → Spot
  | start, [] => .folder start
  | start, name :: names =>
    if d.isClosed start then .nowhere .forbidden
    else if name == ".." then follow d mustBeFolder start.dropLast names
    else if longestName < name.utf8ByteSize then .nowhere .tooLong
    else
      let p := start ++ [name]
      match d.at? p with
      | some .folder => follow d mustBeFolder p names
      | some (.file bytes) =>
        if names.isEmpty && !mustBeFolder then .file p bytes else .nowhere .notFolder
      | none => if names.isEmpty then .vacant p else .nowhere .missing

/-- Where a path leads. -/
def locate (d : Disk) (path : Path) : Spot :=
  match flaw? path with
  | some why => .nowhere why
  | none =>
    if path.isEmpty then .nowhere .missing
    else d.follow path.isFolder (if path.rooted then [] else d.here) path.names

/-! ### Operations -/

/-- Makes the folders that names lead through from a folder, as far as they are missing. -/
def makeFolders (d : Disk) : Place → List String → Except Problem Disk
  | _, [] => .ok d
  | start, name :: names =>
    if d.isClosed start then .error .forbidden
    else if name == ".." then makeFolders d start.dropLast names
    else if longestName < name.utf8ByteSize then .error .tooLong
    else
      let p := start ++ [name]
      match d.at? p with
      | some .folder => makeFolders d p names
      | some (.file _) => .error (if names.isEmpty then .occupied else .notFolder)
      | none => if d.isFixed p then .error .readOnly else makeFolders (d.put p .folder) p names

/-- Makes a folder and all folders above it. A dot at the end stands for the folder itself, and does
not make it. -/
def createFolders (d : Disk) (path : Path) : Except Problem Disk :=
  match flaw? path with
  | some why => .error why
  | none =>
    let start := if path.rooted then [] else d.here
    if path.endsInDot then do
      let made ← d.makeFolders start path.names.dropLast
      match made.follow true start path.names with
      | .nowhere why => .error why
      | .vacant _ => .error .missing
      | _ => .ok made
    else d.makeFolders start path.names

/-- Removes a file, if it is there. A file system that is read-only refuses in any case: whether
there is a file is not looked at. -/
def removeFile (d : Disk) (path : Path) : Except Problem Disk :=
  match d.locate path with
  | .file place _ => if d.isFixed place then .error .readOnly else .ok (d.erase place)
  | .folder _ => .error .isFolder
  | .vacant place => if d.isFixed place then .error .readOnly else .ok d
  | .nowhere .missing => .ok d
  | .nowhere why => .error why

/-- The place of a file to be written, with the bytes it holds so far. A file that is not there is
made. -/
def openFile (d : Disk) (path : Path) : Except Problem (Place × List UInt8 × Disk) :=
  match d.locate path with
  | .file place bytes => if d.isFixed place then .error .readOnly else .ok (place, bytes, d)
  | .folder _ => .error .isFolder
  | .vacant place =>
    if path.isFolder then .error .isFolder
    else if d.isFixed place then .error .readOnly
    else .ok (place, [], d.put place (.file []))
  | .nowhere why => .error why

/-- Adds bytes at the end of the file at a place. -/
def append (d : Disk) (p : Place) (more : List UInt8) : Disk :=
  d.put p (.file ((d.file? p).getD [] ++ more))

/-- Cuts the file at a place back to a length. -/
def truncate (d : Disk) (p : Place) (length : Nat) : Disk :=
  d.put p (.file (((d.file? p).getD []).take length))

/-- The bytes of a file. -/
def contents (d : Disk) (path : Path) : Except Problem (List UInt8) :=
  match d.locate path with
  | .file _ bytes => .ok bytes
  | .folder _ => .error .isFolder
  | .vacant _ => .error .missing
  | .nowhere why => .error why

/-- Whether a path leads to anything. -/
def exists? (d : Disk) (path : Path) : Bool :=
  match d.locate path with
  | .file .. | .folder _ => true
  | _ => false

/-- The files below a place, with the names that lead to them from there. -/
def filesBelow (d : Disk) (p : Place) : List (Place × List UInt8) :=
  d.entries.toList.filterMap fun (q, e) =>
    match e with
    | .file bytes =>
      if p.isPrefixOf q && p.length < q.length then some (q.drop p.length, bytes) else none
    | .folder => none

/-! ### What each operation does to the entries -/

theorem at?_put (d : Disk) {p : Place} (hp : p ≠ []) (q : Place) (e : Entry) :
    (d.put p e).at? q = if p = q then some e else d.at? q := by
  simp only [at?, put, Std.HashMap.getElem?_insert, beq_iff_eq]
  by_cases h : p = q
  · subst h; simp [hp]
  · simp [h]

theorem at?_erase (d : Disk) {p : Place} (hp : p ≠ []) (q : Place) :
    (d.erase p).at? q = if p = q then none else d.at? q := by
  simp only [at?, erase, Std.HashMap.getElem?_erase, beq_iff_eq]
  by_cases h : p = q
  · subst h; simp [hp]
  · simp [h]

end Disk

end Tutor
