import JavaAtlas.Text.Blank

/-! Paths of files. -/

namespace JavaAtlas.File

/-- A path: what it starts with, which is nothing, a slash or two slashes, and its components. No
component is empty or a single dot. -/
structure Path where
  root : String
  parts : List String
deriving Repr, BEq, DecidableEq, Inhabited

namespace Path

/-- The pieces of a text between slashes. -/
def pieces (text : String) : List String := (Text.splitAt '/' text.toList).map String.ofList

/-- Three slashes at the start are as good as one, but two are not. -/
def rootOf (cs : List Char) : String :=
  match cs with
  | '/' :: '/' :: '/' :: _ => "/"
  | '/' :: '/' :: _ => "//"
  | '/' :: _ => "/"
  | _ => ""

/-- The path that a text denotes. -/
def ofText (text : String) : Path :=
  ⟨rootOf text.toList, (pieces text).filter fun p => p != "" && p != "."⟩

/-- The path as text. The path with nothing in it is a dot. -/
def text (p : Path) : String :=
  let all := p.root ++ "/".intercalate p.parts
  if all.isEmpty then "." else all

/-- A path seen from another one. A path with a root does not depend on it. -/
def join (base p : Path) : Path :=
  if p.root.isEmpty then { base with parts := base.parts ++ p.parts } else p

/-- The last component, or nothing. -/
def name (p : Path) : String := p.parts.getLastD ""

/-- The path with more text at its last component. -/
def withEnding (p : Path) (ending : String) : Path :=
  { p with parts := p.parts.dropLast ++ [p.name ++ ending] }

/-- The components left after each `..` has taken away the one before it. -/
def climb (done : List String) : List String → List String
  | [] => done
  | p :: ps => climb (if p == ".." then done.dropLast else done ++ [p]) ps

/-- The path from the root without any `..` in it. -/
def absolute (base p : Path) : Path :=
  let q := base.join p
  { q with parts := climb [] q.parts }

end Path

end JavaAtlas.File
