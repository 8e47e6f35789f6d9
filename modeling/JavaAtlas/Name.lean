import JavaAtlas.Text.Blank
import JavaAtlas.Text.Case

/-! Dotted names of packages and classes: their segments, the boundary between package and class,
and the names under which a compiled class may be stored. -/

namespace JavaAtlas.Name

/-- The pieces of a name between its dots. -/
def segments (name : String) : List String :=
  (Text.splitAt '.' name.toList).map String.ofList

/-- The name with the given segments. -/
def join (segments : List String) : String := ".".intercalate segments

/-- The name in front of the first dot, and what stands after that dot. -/
def splitFirst (name : String) : String × String :=
  let cs := name.toList
  (String.ofList (cs.takeWhile (· != '.')), String.ofList ((cs.dropWhile (· != '.')).drop 1))

/-- The segment after the last dot. -/
def last (name : String) : String := (segments name).getLastD ""

/-- The name of a member of a package or class. Without an enclosing name it stands alone. -/
def within (outer name : String) : String :=
  if outer.isEmpty then name else outer ++ "." ++ name

/-- Package and class of a qualified name. The package ends before the first segment in front of
the last that starts in upper case, so a nested class keeps the classes around it. -/
def splitQualified (name : String) : String × String :=
  let parts := segments name
  let package := parts.dropLast.takeWhile fun part => !Text.startsUpper part
  (join package, join (parts.drop package.length))

/-- The names that arise by joining `last` to the segments in front of it, nearest first, with `$`
for the dot, as long as such a segment starts in upper case. -/
def binaryForms (last : String) : List String → List String
  | [] => [last]
  | part :: parts =>
    join (parts.reverse ++ [part, last]) ::
      if Text.startsUpper part then binaryForms (part ++ "$" ++ last) parts else []

/-- The names under which a compiled class may be stored, in the order in which they are tried:
`a.B.C` and then `a.B$C`. -/
def binaryNames (name : String) : List String :=
  match (segments name).reverse with
  | [] => [name]
  | last :: parts => binaryForms last parts

end JavaAtlas.Name
