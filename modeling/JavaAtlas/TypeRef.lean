import JavaAtlas.Resolution
import JavaAtlas.Java.Token
import JavaAtlas.Text.Quoted

/-! References to types. A reference keeps the name as it is written and the place where it stands;
what it refers to is asked each time. -/

namespace JavaAtlas

/-- A type as written in a unit, in the body of a class. -/
structure TypeRef where
  name : String
  dims : Int := 0
  owner : Option SourceUnit := none
  scope : Option Class := none
deriving Repr, Inhabited

namespace TypeRef

/-- The types that no class declares. -/
def primitives : List String := "void" :: Java.Token.basicTypes

def isPrimitive (r : TypeRef) : Bool := primitives.contains r.name

def isArray (r : TypeRef) : Bool := 0 < r.dims

def isVoid (r : TypeRef) : Bool := r.name == "void" && r.dims == 0

/-- The type of the elements of an array. -/
def component? (r : TypeRef) : Option TypeRef :=
  if r.isArray then some { r with dims := r.dims - 1 } else none

/-- The full name that the written name stands for. A primitive type is its own full name. -/
def resolvedName (r : TypeRef) : Query (Option String) :=
  if r.isPrimitive then return some r.name
  else
    match r.owner with
    | none => return none
    | some unit => Resolution.resolve unit r.scope r.name

/-- The full name, or the name as written if it stands for nothing. -/
def fullName (r : TypeRef) : Query String := do
  match ← r.resolvedName with
  | none => return r.name
  | some full => return if full.isEmpty then r.name else full

def isResolved (r : TypeRef) : Query Bool := return (← r.resolvedName).isSome

/-- The class that the reference points at, if the registry of its unit knows it. -/
def class? (r : TypeRef) : Query (Option Class) := do
  if r.isArray || r.isPrimitive then return none
  match r.owner with
  | none => return none
  | some unit =>
    match ← Query.homeOf unit.key with
    | none => return none
    | some registry =>
      match ← r.resolvedName with
      | none => return none
      | some full => Query.classNamed registry full

/-- A pair of brackets for each dimension. -/
def brackets (dims : Int) : String := String.join (List.replicate dims.toNat "[]")

/-- The full name with a pair of brackets for each dimension. -/
def display (r : TypeRef) : Query String := return (← r.fullName) ++ brackets r.dims

/-- The reference as messages show it. -/
def describe (r : TypeRef) : String :=
  "TypeRef(" ++ Text.quoted r.name ++ ", dimensions=" ++ toString r.dims ++ ")"

/-- Both refer to the same type: equal full names and equal dimensions. -/
def equal (r s : TypeRef) : Query Bool := do
  let left ← r.fullName
  let right ← s.fullName
  return left == right && r.dims == s.dims

end TypeRef

namespace Class

/-- The class stands in source text, so that names in it see the classes around them. -/
def inSource (c : Class) : Bool :=
  match c.key with
  | .source _ => true
  | .outside .. => false

/-- A type in the body of a class. -/
def bodyRef (c : Class) (t : TypeSpec) : TypeRef :=
  { name := t.name, dims := t.dims, owner := c.unit, scope := if c.inSource then some c else none }

/-- A type in the header of a class, which stands outside its body. -/
def headerRef (c : Class) (t : TypeSpec) : TypeRef :=
  { name := t.name, dims := t.dims, owner := c.unit,
    scope := if c.inSource then c.enclosing? else none }

/-- The superclass that a class declares. -/
def superclass? (c : Class) : Option TypeRef := c.decl.superclass.map c.headerRef

/-- The interfaces that a class declares. -/
def interfaces (c : Class) : List TypeRef := c.decl.interfaces.map c.headerRef

/-- The root of all classes. -/
def rootName : String := "java.lang.Object"

/-- The superclass that a class declares, or the root of all classes. Interfaces have none, nor has
the root itself. -/
def effectiveSuperclass? (c : Class) : Option TypeRef :=
  match c.superclass? with
  | some r => some r
  | none =>
    if c.isInterface || c.fullName == rootName then none
    else some { name := rootName, owner := c.unit }

end Class

end JavaAtlas
