import JavaAtlas.Declaration

/-! The members of a type, as they are collected while its body is read. -/

namespace JavaAtlas.Java

/-- Fields, methods and member types, each in source order. -/
structure Members where
  fields : List FieldDecl := []
  methods : List MethodDecl := []
  types : List TypeDecl := []
deriving Inhabited

namespace Members

def append (a b : Members) : Members :=
  ⟨a.fields ++ b.fields, a.methods ++ b.methods, a.types ++ b.types⟩

instance : Append Members := ⟨append⟩

/-- The members of several parts of a body, one after the other. -/
def concat (parts : List Members) : Members := parts.foldr (· ++ ·) {}

/-- A body with one method. -/
def ofMethod (m : MethodDecl) : Members := { methods := [m] }

/-- A body with one member type. -/
def ofType (t : TypeDecl) : Members := { types := [t] }

end Members

end JavaAtlas.Java
