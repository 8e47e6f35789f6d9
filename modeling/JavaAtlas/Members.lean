import JavaAtlas.TypeRef

/-! Fields and methods of classes, and how methods are found by their signatures. -/

namespace JavaAtlas.Class

/-- The field of a name. -/
def field? (c : Class) (name : String) : Option FieldDecl :=
  c.decl.fields.find? fun f => f.name == name

/-- The methods of a name, in the order of declaration. -/
def methodsNamed (c : Class) (name : String) : List MethodDecl :=
  c.decl.methods.filter fun m => m.name == name

def constructors (c : Class) : List MethodDecl := c.decl.methods.filter (·.isConstructor)

/-- The types of a method's parameters. -/
def parameterRefs (c : Class) (m : MethodDecl) : List TypeRef :=
  m.params.map fun p => c.bodyRef p.type

/-- The return type of a method. -/
def returnRef? (c : Class) (m : MethodDecl) : Option TypeRef := m.returns.map c.bodyRef

/-- The displays of some references. -/
def displays : List TypeRef → Query (List String)
  | [] => return []
  | r :: rs => do
    let first ← r.display
    return first :: (← displays rs)

/-- The name of a method and the displayed types of its parameters. -/
def signature (c : Class) (m : MethodDecl) : Query String := do
  return m.name ++ "(" ++ ",".intercalate (← displays (c.parameterRefs m)) ++ ")"

/-- A parameter type that a method is looked up by: a reference or a displayed type. -/
inductive Wanted where
  | ref (r : TypeRef)
  | text (s : String)

/-- A declared type is the wanted one, by its full name or as it is written. -/
def fits (declared : TypeRef) : Wanted → Query Bool
  | .ref wanted => do
    if declared.dims != wanted.dims then return false
    let left ← declared.fullName
    let right ← wanted.fullName
    return left == right || declared.name == wanted.name
  | .text wanted => do
    let full ← declared.fullName
    let suffix := TypeRef.brackets declared.dims
    return wanted == full ++ suffix || wanted == declared.name ++ suffix

/-- Each declared type is the wanted one at its place. -/
def allFit : List TypeRef → List Wanted → Query Bool
  | d :: ds, w :: ws => do
    if ← fits d w then allFit ds ws else return false
  | _, _ => return true

/-- The method has this name and these parameter types. -/
def hasSignature (c : Class) (m : MethodDecl) (name : String) (wanted : List Wanted) :
    Query Bool := do
  if name != m.name || wanted.length != m.params.length then return false
  allFit (c.parameterRefs m) wanted

/-- The first of some methods with this name and these parameter types. -/
def firstFitting (c : Class) (name : String) (wanted : List Wanted) :
    List MethodDecl → Query (Option MethodDecl)
  | [] => return none
  | m :: ms => do
    if ← c.hasSignature m name wanted then return some m else firstFitting c name wanted ms

/-- The method of a signature. -/
def method? (c : Class) (name : String) (wanted : List Wanted) : Query (Option MethodDecl) :=
  c.firstFitting name wanted c.decl.methods

end JavaAtlas.Class
