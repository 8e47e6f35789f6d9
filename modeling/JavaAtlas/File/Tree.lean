import JavaAtlas.File.Path
import JavaAtlas.Text.Quoted

/-! Trees of files and directories, and the operations on them that can fail. -/

namespace JavaAtlas.File

/-- A file with its bytes, or a directory with its entries. -/
inductive Tree where
  | file (bytes : List UInt8)
  | directory (entries : List (String × Tree))
deriving Repr, BEq, Inhabited

/-- Why an operation on files fails. -/
inductive Cause where
  | absent
  | notDirectory
  | isDirectory
  | busy
  | nameTooLong
deriving Repr, BEq, DecidableEq

namespace Cause

def code : Cause → Nat
  | .absent => 2
  | .busy => 16
  | .notDirectory => 20
  | .isDirectory => 21
  | .nameTooLong => 36

def text : Cause → String
  | .absent => "No such file or directory"
  | .busy => "Device or resource busy"
  | .notDirectory => "Not a directory"
  | .isDirectory => "Is a directory"
  | .nameTooLong => "File name too long"

end Cause

/-- A failed operation on the files at some paths. -/
structure Error where
  cause : Cause
  paths : List String
deriving Repr, BEq, DecidableEq

/-- The error in one line, with an arrow from the path that was moved to the other. -/
def Error.text (e : Error) : String :=
  s!"[Errno {e.cause.code}] " ++ e.cause.text ++ ": " ++
    " -> ".intercalate (e.paths.map JavaAtlas.Text.quoted)

namespace Tree

/-- The entry of a directory. A file has none. -/
def entry? (name : String) : Tree → Option Tree
  | .file _ => none
  | .directory entries => entries.lookup name

def isDirectory : Tree → Bool
  | .file _ => false
  | .directory _ => true

/-- What stands at a place, which is a list of names from the top. -/
def at? (t : Tree) : List String → Option Tree
  | [] => some t
  | name :: place => (t.entry? name).bind fun u => u.at? place

/-- The entries with one of them replaced, added or, if there is nothing to put there, removed. -/
def setEntry (name : String) (new : Option Tree) : List (String × Tree) → List (String × Tree)
  | [] => new.toList.map fun t => (name, t)
  | (n, t) :: entries =>
    if n == name then new.toList.map (fun t => (name, t)) ++ entries.filter (·.1 != name)
    else (n, t) :: setEntry name new entries

/-- The tree with something else at a place whose directory exists, or nothing at all. -/
def put (t : Tree) : List String → Option Tree → Tree
  | [], new => new.getD t
  | name :: place, new =>
    match t with
    | .file bytes => .file bytes
    | .directory entries =>
      match place with
      | [] => .directory (setEntry name new entries)
      | _ :: _ =>
        match entries.lookup name with
        | none => .directory entries
        | some u => .directory (setEntry name (some (u.put place new)) entries)

/-- A name has at most 255 bytes. -/
def isTooLong (name : String) : Bool := 255 < name.utf8ByteSize

/-- Follows the steps of a path from a place to another one. Every step but the last leads to a
directory. -/
def walk (t : Tree) (place : List String) : List String → Except Cause (List String)
  | [] => .ok place
  | step :: steps =>
    match t.at? place with
    | none => .error .absent
    | some here =>
      if !here.isDirectory then .error .notDirectory
      else if step == "." then walk t place steps
      else if step == ".." then walk t place.dropLast steps
      else if isTooLong step then .error .nameTooLong
      else if (here.entry? step).isSome then walk t (place ++ [step]) steps
      else .error .absent

end Tree

/-- A tree of files and the directory from which relative paths start, as a place in the tree. -/
structure Disk where
  tree : Tree := .directory []
  directory : List String := []
deriving Repr, BEq, Inhabited

namespace Disk

/-- The directory from which relative paths start. -/
def here (d : Disk) : Path := ⟨"/", d.directory⟩

/-- The place from which a path starts. -/
def start (d : Disk) (root : String) : List String := if root.isEmpty then d.directory else []

/-- The place of a path. -/
def locate (d : Disk) (p : Path) : Except Cause (List String) :=
  d.tree.walk (d.start p.root) p.parts

/-- The steps of a path as it is written. A slash at the end leads to the directory itself, and an
empty text leads nowhere. -/
def locateText (d : Disk) (text : String) : Except Cause (List String) :=
  if text.isEmpty then .error .absent
  else
    let pieces := Path.pieces text
    let last := pieces.getLastD ""
    let steps := pieces.dropLast.filter (· != "") ++ [if last.isEmpty then "." else last]
    d.tree.walk (d.start (Path.rootOf text.toList)) steps

/-- What stands at a path. -/
def lookup (d : Disk) (p : Path) : Except Cause Tree := do
  match d.tree.at? (← d.locate p) with
  | some t => return t
  | none => throw .absent

/-- Something stands at a path. -/
def holds (d : Disk) (p : Path) : Bool := (d.lookup p).toOption.isSome

def isDirectory (d : Disk) (p : Path) : Bool :=
  ((d.lookup p).toOption.map Tree.isDirectory).getD false

/-- The bytes of a file. -/
def bytesOf : Tree → Except Cause (List UInt8)
  | .file bytes => .ok bytes
  | .directory _ => .error .isDirectory

/-- The bytes of the file at a path. -/
def read (d : Disk) (p : Path) : Except Cause (List UInt8) := do bytesOf (← d.lookup p)

/-- The bytes of the file at a path as it is written. -/
def readText (d : Disk) (text : String) : Except Cause (List UInt8) := do
  match d.tree.at? (← d.locateText text) with
  | some t => bytesOf t
  | none => throw .absent

/-- The names in a directory. -/
def names (d : Disk) (p : Path) : Except Cause (List String) := do
  match ← d.lookup p with
  | .file _ => throw .notDirectory
  | .directory entries => return entries.map Prod.fst

/-- The place of a file that need not exist yet, in a directory that exists. -/
def target (d : Disk) (p : Path) : Except Cause (List String) := do
  let parent ← d.tree.walk (d.start p.root) p.parts.dropLast
  match d.tree.at? parent with
  | some (.directory _) =>
    if Tree.isTooLong p.name then throw .nameTooLong else return parent ++ [p.name]
  | some (.file _) => throw .notDirectory
  | none => throw .absent

/-- Writes a file, which may be there already. -/
def write (d : Disk) (p : Path) (bytes : List UInt8) : Except Cause Disk := do
  let place ← d.target p
  match d.tree.at? place with
  | some (.directory _) => throw .isDirectory
  | _ => return { d with tree := d.tree.put place (some (.file bytes)) }

/-- Moves a file to another path, where a file may be already. -/
def replace (d : Disk) (source goal : Path) : Except Cause Disk := do
  let fromPlace ← d.target source
  if goal.name == ".." then throw .busy
  let toPlace ← d.target goal
  match d.tree.at? fromPlace, d.tree.at? toPlace with
  | none, _ => throw .absent
  | some _, some (.directory _) => throw .isDirectory
  | some file, _ =>
    return { d with tree := (d.tree.put fromPlace none).put toPlace (some file) }

/-- Removes a file. -/
def remove (d : Disk) (p : Path) : Except Cause Disk := do
  let place ← d.target p
  match d.tree.at? place with
  | none => throw .absent
  | some (.directory _) => throw .isDirectory
  | some (.file _) => return { d with tree := d.tree.put place none }

end Disk

end JavaAtlas.File
