import JavaAtlas.SourceUnit
import JavaAtlas.Modifier

/-! A class at its place: the declaration, the declarations around it and the unit it stands in. -/

namespace JavaAtlas

/-- A class, interface, enum or annotation type at its place. `path` leads from the top of the unit
to the declaration by positions, and `outer` holds the declarations around it, the nearest first.
A class may stand in no unit at all. -/
structure Class where
  key : UnitKey
  unit : Option SourceUnit
  path : List Nat
  decl : TypeDecl
  outer : List TypeDecl := []
deriving Repr, Inhabited

namespace Class

def name (c : Class) : String := c.decl.name

def kind (c : Class) : TypeKind := c.decl.kind

/-- Interfaces and annotation types. -/
def isInterface (c : Class) : Bool := c.decl.kind.isInterface

def package (c : Class) : String := (c.unit.map SourceUnit.package).getD ""

/-- Both are the same class: not only alike, but the one declaration of the one unit. -/
def same (c d : Class) : Bool := c.key == d.key && c.path == d.path

/-- The full name of a declaration with the given ones around it. -/
def fullNameIn (package : String) : List TypeDecl → String → String
  | [], name => Name.within package name
  | d :: outer, name => fullNameIn package outer d.name ++ "." ++ name

/-- The package, the classes around the class and the class, joined by dots. -/
def fullName (c : Class) : String := fullNameIn c.package c.outer c.name

/-- The class around a class. -/
def enclosing? (c : Class) : Option Class :=
  match c.outer with
  | [] => none
  | d :: outer => some { c with path := c.path.dropLast, decl := d, outer }

/-- A member class at a position. -/
def member (c : Class) (position : Nat) (d : TypeDecl) : Class :=
  { c with path := c.path ++ [position], decl := d, outer := c.decl :: c.outer }

/-- The member classes of a class. -/
def members (c : Class) : List Class := c.decl.nested.mapIdx c.member

/-- The class and the classes around it, from inside out. `outer` are the declarations left. -/
def scopesFrom (c : Class) : List TypeDecl → List Class
  | [] => [{ c with outer := [] }]
  | d :: outer =>
    { c with outer := d :: outer } ::
      scopesFrom { c with path := c.path.dropLast, decl := d } outer

/-- The class and the classes around it, from inside out. -/
def scopes (c : Class) : List Class := scopesFrom c c.outer

mutual

/-- A declaration and all declarations inside it, depth first, as classes at their places. -/
def treeOf (c : Class) : TypeDecl → List Class
  | d@{ nested, .. } => { c with decl := d } :: treesOf { c with outer := d :: c.outer } 0 nested

/-- The trees of member declarations from a position on; `c` has the declarations around them and
the path to them. -/
def treesOf (c : Class) (position : Nat) : List TypeDecl → List Class
  | [] => []
  | d :: ds => treeOf { c with path := c.path ++ [position] } d ++ treesOf c (position + 1) ds

end

/-- The class and all classes inside it, depth first. -/
def tree (c : Class) : List Class := treeOf c c.decl

/-- The member class of a dotted name, each segment leading one class down. The first member of a
name counts. -/
def descend (c : Class) : List String → Option Class
  | [] => some c
  | n :: ns => (c.members.find? fun m => m.name == n).bind fun m => m.descend ns

/-- The segments that a dotted name leads down by. A dot at the end is as good as none. -/
def descent (name : String) : List String :=
  let segments := Name.segments name
  if 1 < segments.length && segments.getLast? == some "" then segments.dropLast else segments

/-- The member class of a dotted name. -/
def memberNamed? (c : Class) (name : String) : Option Class := c.descend (descent name)

end Class

namespace SourceUnit

/-- A top-level class of a unit. -/
def top (u : SourceUnit) (position : Nat) (d : TypeDecl) : Class :=
  { key := u.key, unit := some u, path := [position], decl := d }

/-- The top-level classes of a unit. -/
def tops (u : SourceUnit) : List Class := u.types.mapIdx u.top

/-- All classes of a unit, depth first. -/
def classes (u : SourceUnit) : List Class := u.tops.flatMap Class.tree

/-- The first class of the unit, depth first, with this simple or full name. -/
def class? (u : SourceUnit) (name : String) : Option Class :=
  u.classes.find? fun c => name == c.name || name == c.fullName

end SourceUnit

end JavaAtlas
