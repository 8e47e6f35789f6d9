import JavaAtlas.Declaration
import JavaAtlas.Name

/-! Compilation units as a registry keeps them: assembled from the declarations of a text, or made
up around a class that comes from outside the sources. -/

namespace JavaAtlas

/-- What tells one registry from another. -/
structure RegistryId where
  number : Nat
deriving Repr, BEq, DecidableEq, Inhabited

/-- What tells one unit from another. A unit that was assembled has a number of its own. A unit
around an outside class belongs to the registry that took the class in under a name, if one did. -/
inductive UnitKey where
  | source (number : Nat)
  | outside (registry : Option RegistryId) (name : String)
deriving Repr, BEq, DecidableEq, Inhabited

/-- A compilation unit. Imports are kept as written, those on demand with their `.*`. -/
structure SourceUnit where
  key : UnitKey
  package : String := ""
  imports : List String := []
  staticImports : List String := []
  types : List TypeDecl := []
  origin : Option String := none
deriving Repr, BEq, Inhabited

/-- The import as it is written. -/
def ImportDecl.text (i : ImportDecl) : String := if i.onDemand then i.name ++ ".*" else i.name

/-- A constructor without a return type. -/
def MethodDecl.settled (m : MethodDecl) : MethodDecl :=
  if m.isConstructor then { m with returns := none } else m

mutual

/-- The declaration with no return type at any constructor, of member types too. -/
def TypeDecl.settled : TypeDecl → TypeDecl
  | { kind, name, modifiers, superclass, interfaces, fields, methods, nested, line } =>
    { kind, name, modifiers, superclass, interfaces, fields, line
      methods := methods.map MethodDecl.settled
      nested := TypeDecl.settledAll nested }

def TypeDecl.settledAll : List TypeDecl → List TypeDecl
  | [] => []
  | t :: ts => t.settled :: TypeDecl.settledAll ts

end

@[simp] theorem TypeDecl.settledAll_eq_map (ts : List TypeDecl) :
    TypeDecl.settledAll ts = ts.map TypeDecl.settled := by
  induction ts with
  | nil => rfl
  | cons t ts ih => simp [TypeDecl.settledAll, ih]

/-- The unit of some declarations. -/
def SourceUnit.assemble (key : UnitKey) (decl : UnitDecl) (origin : Option String) : SourceUnit :=
  { key
    package := decl.package
    imports := (decl.imports.filter (!·.isStatic)).map ImportDecl.text
    staticImports := (decl.imports.filter (·.isStatic)).map ImportDecl.text
    types := decl.types.map TypeDecl.settled
    origin }

end JavaAtlas
