/-! The declarations of one compilation unit, as a reader of Java text reports them: names and types
as they are written, nothing resolved. -/

namespace JavaAtlas

/-- A type as written: its dotted name without type arguments, and its array dimensions. A number of
dimensions below zero can be given and makes no array. -/
structure TypeSpec where
  name : String
  dims : Int := 0
deriving Repr, BEq, DecidableEq, Inhabited

/-- An import. The name of an import on demand ends before its `.*`. -/
structure ImportDecl where
  name : String
  isStatic : Bool := false
  onDemand : Bool := false
deriving Repr, BEq, DecidableEq, Inhabited

structure FieldDecl where
  name : String
  type : TypeSpec
  modifiers : List String := []
deriving Repr, BEq, DecidableEq, Inhabited

/-- A parameter. The dots of a variable-arity parameter count as one dimension of its type. -/
structure ParamDecl where
  name : String
  type : TypeSpec
  variadic : Bool := false
deriving Repr, BEq, DecidableEq, Inhabited

/-- A method or a constructor. A constructor has no return type. -/
structure MethodDecl where
  name : String
  returns : Option TypeSpec := none
  params : List ParamDecl := []
  modifiers : List String := []
  isConstructor : Bool := false
  throws : List TypeSpec := []
deriving Repr, BEq, DecidableEq, Inhabited

/-- The kinds of type declarations. A catalog may use a word of its own for another kind. -/
inductive TypeKind where
  | classType
  | interfaceType
  | enumType
  | annotationType
  | other (word : String)
deriving Repr, BEq, DecidableEq, Inhabited

namespace TypeKind

/-- The word for a kind. -/
def word : TypeKind → String
  | .classType => "class"
  | .interfaceType => "interface"
  | .enumType => "enum"
  | .annotationType => "annotation"
  | .other w => w

/-- The kind that a word stands for. -/
def ofWord (w : String) : TypeKind :=
  if w = "class" then .classType
  else if w = "interface" then .interfaceType
  else if w = "enum" then .enumType
  else if w = "annotation" then .annotationType
  else .other w

@[simp] theorem word_ofWord (w : String) : (ofWord w).word = w := by
  unfold ofWord
  split
  · simp [word, *]
  · split
    · simp [word, *]
    · split
      · simp [word, *]
      · split <;> simp [word, *]

/-- Annotation types are interfaces too. -/
def isInterface : TypeKind → Bool
  | .interfaceType | .annotationType => true
  | _ => false

end TypeKind

/-- The declaration of a class, interface, enum or annotation type with its members. An interface
keeps the interfaces it extends in `interfaces`. -/
structure TypeDecl where
  kind : TypeKind := .classType
  name : String
  modifiers : List String := []
  superclass : Option TypeSpec := none
  interfaces : List TypeSpec := []
  fields : List FieldDecl := []
  methods : List MethodDecl := []
  nested : List TypeDecl := []
  line : Option Int := none
deriving Repr, BEq, Inhabited

/-- The declarations of one compilation unit. -/
structure UnitDecl where
  package : String := ""
  imports : List ImportDecl := []
  types : List TypeDecl := []
deriving Repr, BEq, Inhabited

end JavaAtlas
