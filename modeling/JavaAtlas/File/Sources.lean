import JavaAtlas.File.Tree

/-! The Java files below a directory. -/

namespace JavaAtlas.File

/-- Files that declare no classes. -/
def withoutClasses : List String := ["package-info.java", "module-info.java"]

/-- The name of a file with Java source. -/
def isSourceName (name : String) : Bool :=
  ".java".toList.isSuffixOf name.toList && !withoutClasses.contains name

mutual

/-- The places of the source files in a tree at a place, which is seen from the top. -/
def Tree.sourcesAt (place : List String) : Tree → List (List String)
  | .file _ => if isSourceName (place.getLastD "") then [place] else []
  | .directory entries => sourcesIn place entries

/-- The places of the source files in some entries of the directory at a place. -/
def sourcesIn (place : List String) : List (String × Tree) → List (List String)
  | [] => []
  | (name, t) :: entries => t.sourcesAt (place ++ [name]) ++ sourcesIn place entries

end

/-- The order of two lists of names: by the first difference, and there by code points. -/
def comparePlaces : List String → List String → Ordering
  | [], [] => .eq
  | [], _ :: _ => .lt
  | _ :: _, [] => .gt
  | x :: xs, y :: ys => (compare x y).then (comparePlaces xs ys)

/-- The places of the source files below a directory, in order. -/
def Tree.sources : Tree → List (List String)
  | .file _ => []
  | .directory entries => (sourcesIn [] entries).mergeSort fun a b => comparePlaces a b != .gt

/-- The paths of the source files below a directory, in the order of their components. There are
none where no directory is. -/
def Disk.sources (d : Disk) (root : Path) : List Path :=
  match d.lookup root with
  | .ok t => t.sources.map fun place => { root with parts := root.parts ++ place }
  | .error _ => []

end JavaAtlas.File
