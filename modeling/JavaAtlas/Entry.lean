import JavaAtlas.Class.Basic

/-! Entries of a catalog: declarative descriptions of classes that come from outside the sources. -/

namespace JavaAtlas

/-- A field of an entry. What a catalog leaves out is missing here. -/
structure FieldEntry where
  name : Option String
  type : Option String
  modifiers : List String := ["public"]
deriving Repr, BEq, Inhabited

/-- A method of an entry. Types are written with their brackets, a variable-arity parameter with
three dots. -/
structure MethodEntry where
  name : Option String
  returns : String := "void"
  params : List String := []
  modifiers : List String := ["public"]
  isConstructor : Bool := false
deriving Repr, BEq, Inhabited

/-- A class of a catalog. Without further words it is public and has no members. -/
structure Entry where
  kind : TypeKind := .classType
  modifiers : List String := ["public"]
  superclass : Option String := none
  interfaces : List String := []
  fields : List FieldEntry := []
  methods : List MethodEntry := []
deriving Repr, BEq, Inhabited

/-- What an entry may lack. -/
inductive EntryError where
  | missingName
  | missingType
deriving Repr, BEq, DecidableEq

namespace Entry

/-- The text without every pair of brackets, and how many there were. -/
def stripBrackets : List Char → List Char × Nat
  | [] => ([], 0)
  | '[' :: ']' :: cs =>
    let (rest, n) := stripBrackets cs
    (rest, n + 1)
  | c :: cs =>
    let (rest, n) := stripBrackets cs
    (c :: rest, n)

/-- The three dots of a variable-arity parameter stand at the end. -/
def isVariadic (text : String) : Bool := ['.', '.', '.'].isSuffixOf text.toList

/-- The type that a text in an entry denotes. Three dots at the end count as one dimension. -/
def readType (text : String) : TypeSpec :=
  let cs := text.toList
  let variadic := isVariadic text
  let (name, dims) := stripBrackets (if variadic then cs.take (cs.length - 3) else cs)
  ⟨String.ofList (Text.trim name), dims + if variadic then 1 else 0⟩

/-- What an entry must have. -/
def require {α : Type} (what : EntryError) : Option α → Except EntryError α
  | some a => .ok a
  | none => .error what

def readField (f : FieldEntry) : Except EntryError FieldDecl := do
  let name ← require .missingName f.name
  let type ← require .missingType f.type
  return { name, type := readType type, modifiers := f.modifiers }

/-- The parameters of an entry have no names, so they are numbered. -/
def readParam (position : Nat) (text : String) : ParamDecl :=
  { name := "arg" ++ toString position, type := readType text, variadic := isVariadic text }

def readMethod (m : MethodEntry) : Except EntryError MethodDecl := do
  let name ← require .missingName m.name
  return {
    name
    returns := if m.isConstructor then none else some (readType m.returns)
    params := m.params.mapIdx readParam
    modifiers := m.modifiers
    isConstructor := m.isConstructor }

/-- The declaration that an entry describes. An empty name is no superclass. -/
def declaration (name : String) (e : Entry) : Except EntryError TypeDecl := do
  let fields ← e.fields.mapM readField
  let methods ← e.methods.mapM readMethod
  return {
    kind := e.kind
    name
    modifiers := e.modifiers
    superclass := (e.superclass.filter (!·.isEmpty)).map fun s => ⟨s, 0⟩
    interfaces := e.interfaces.map fun s => ⟨s, 0⟩
    fields
    methods }

/-- The class of an entry under a full name, alone in a unit of its own. -/
def toClass (key : UnitKey) (fullName origin : String) (e : Entry) : Except EntryError Class := do
  let (package, name) := Name.splitQualified fullName
  let decl ← e.declaration name
  let unit : SourceUnit := { key, package, types := [decl], origin := some origin }
  return unit.top 0 decl

end Entry

end JavaAtlas
