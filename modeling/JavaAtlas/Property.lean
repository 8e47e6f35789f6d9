import JavaAtlas.Members
import JavaAtlas.Text.Case

/-! Properties of classes: pairs of accessor and mutator methods that share a name. -/

namespace JavaAtlas

/-- A property. At least one of the two methods is there. -/
structure Property where
  name : String
  accessor : Option MethodDecl := none
  mutator : Option MethodDecl := none
deriving Repr, BEq, Inhabited

namespace Property

/-- The property that a method name means by starting with `word`: what follows the word, with a
first letter in lower case. -/
def nameAfter (word : String) (name : String) : Option String :=
  if word.toList.isPrefixOf name.toList && word.length < name.length then
    some (Text.lowerFirst (String.ofList (name.toList.drop word.length)))
  else none

/-- A value is returned. -/
def isValue (t : TypeSpec) : Bool := !(t.name == "void" && t.dims == 0)

/-- The property that a method reads: a method without parameters that is named `getX` and returns
something, or is named `isX` and returns a truth value. -/
def readBy (m : MethodDecl) : Option String :=
  match m.params, m.returns with
  | [], some t =>
    match if isValue t then nameAfter "get" m.name else none with
    | some name => some name
    | none => if t.name == "boolean" && t.dims ≤ 0 then nameAfter "is" m.name else none
  | _, _ => none

/-- The property that a method writes: a method with one parameter that is named `setX` and returns
nothing. -/
def writtenBy (m : MethodDecl) : Option String :=
  match m.params, m.returns with
  | [_], some t => if isValue t then none else nameAfter "set" m.name
  | _, _ => none

/-- Which half of a property a method is. -/
inductive Role where
  | accessor (name : String)
  | mutator (name : String)
deriving Repr, BEq, DecidableEq

/-- The part that a method plays in a property. Constructors play none. -/
def role? (m : MethodDecl) : Option Role :=
  if m.isConstructor then none
  else
    match readBy m with
    | some name => some (.accessor name)
    | none => (writtenBy m).map .mutator

/-- The property with the method in its place, unless that is taken. -/
def fill (m : MethodDecl) : Role → Property → Property
  | .accessor _, p => { p with accessor := p.accessor.or (some m) }
  | .mutator _, p => { p with mutator := p.mutator.or (some m) }

def Role.name : Role → String
  | .accessor name => name
  | .mutator name => name

/-- Enters a method into the property of its name, which is a new one at the end if there is none
yet. -/
def enter (m : MethodDecl) (role : Role) : List Property → List Property
  | [] => [fill m role { name := role.name }]
  | p :: ps => if p.name == role.name then fill m role p :: ps else p :: enter m role ps

/-- The properties that some methods form, in the order of the first method of each. -/
def ofMethods (methods : List MethodDecl) : List Property :=
  methods.foldl (fun found m =>
    match role? m with
    | some role => enter m role found
    | none => found) []

/-- The type of a property: what the accessor returns, or else what the mutator takes. -/
def type? (p : Property) : Option TypeSpec :=
  match p.accessor, p.mutator with
  | some m, _ => m.returns
  | none, some m => m.params.head?.map ParamDecl.type
  | none, none => none

end Property

namespace Class

/-- The properties of a class. -/
def properties (c : Class) : List Property := Property.ofMethods c.decl.methods

/-- The property of a name. -/
def property? (c : Class) (name : String) : Option Property :=
  c.properties.find? fun p => p.name == name

end Class

end JavaAtlas
