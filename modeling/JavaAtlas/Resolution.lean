import JavaAtlas.Query

/-! What a name written in a unit stands for. The unit and the place of the name give a list of
candidates in order of precedence; the first one that holds is the full name. -/

namespace JavaAtlas.Resolution

/-- What makes a candidate hold. -/
inductive Evidence where
  /-- The candidate holds as it stands. -/
  | none
  /-- The unit's registry knows a class of this name. -/
  | known
  /-- The unit's registry, if it has one, knows a class of this name. -/
  | notMissing
deriving Repr, BEq, DecidableEq

/-- A full name that a written name may stand for. -/
structure Candidate where
  name : String
  needs : Evidence
deriving Repr, BEq, DecidableEq

/-- The package that every unit imports. -/
def implicitPackage : String := "java.lang"

/-- The class that a simple name means at one class of a chain of scopes: a member class of that
name or else the class itself. -/
def visibleAt (head : String) (c : Class) : Option Class :=
  match c.members.find? fun m => m.name == head with
  | some m => some m
  | none => if c.name == head then some c else none

/-- The innermost class of a simple name that is visible from the body of `scope`, or a top-level
class of the unit. -/
def inScope? (head : String) (unit : SourceUnit) (scope : Option Class) : Option Class :=
  match ((scope.map Class.scopes).getD []).findSome? (visibleAt head) with
  | some c => some c
  | none => unit.tops.find? fun c => c.name == head

/-- The import is one on demand. -/
def isOnDemand (imported : String) : Bool := ['.', '*'].isSuffixOf imported.toList

/-- The package or class of an import on demand. -/
def onDemandFrom (imported : String) : String := String.ofList imported.toList.dropLast.dropLast

/-- The candidates of a name with the first segment `head`, in order of precedence. `suffix` is the
rest of the name with its dot, or empty. -/
def candidatesFor (unit : SourceUnit) (scope : Option Class) (head suffix : String) :
    List Candidate :=
  let qualified : List Candidate :=
    if suffix.isEmpty then [] else [⟨head ++ suffix, .known⟩]
  let inScope : List Candidate := (inScope? head unit scope).toList.map fun c =>
    ⟨c.fullName ++ suffix, if suffix.isEmpty then .none else .notMissing⟩
  let samePackage : List Candidate := [⟨Name.within unit.package head ++ suffix, .known⟩]
  let imported : List Candidate :=
    (unit.imports.find? fun i => !isOnDemand i && Name.last i == head).toList.map fun i =>
      ⟨i ++ suffix, .none⟩
  let onDemand : List Candidate := (unit.imports.filter isOnDemand).map fun i =>
    ⟨onDemandFrom i ++ "." ++ head ++ suffix, .known⟩
  let implicit : List Candidate := [⟨implicitPackage ++ "." ++ head ++ suffix, .known⟩]
  qualified ++ inScope ++ samePackage ++ imported ++ onDemand ++ implicit

/-- The candidates of a name. The empty name stands for nothing, and a dot at the end of a simple
name is as good as none. -/
def candidates (unit : SourceUnit) (scope : Option Class) (name : String) : List Candidate :=
  if name.isEmpty then []
  else
    let (head, rest) := Name.splitFirst name
    candidatesFor unit scope head (if rest.isEmpty then "" else "." ++ rest)

/-- The candidate holds in the registry of its unit. -/
def holds (home : Option RegistryId) (c : Candidate) : Query Bool :=
  match c.needs, home with
  | .none, _ => return true
  | .known, none => return false
  | .notMissing, none => return true
  | .known, some registry | .notMissing, some registry =>
    return (← Query.classNamed registry c.name).isSome

/-- The first candidate that holds. -/
def choose (home : Option RegistryId) : List Candidate → Query (Option String)
  | [] => return none
  | c :: cs => do
    if ← holds home c then return some c.name else choose home cs

/-- The full name that a name stands for in a unit, in the body of `scope`. -/
def resolve (unit : SourceUnit) (scope : Option Class) (name : String) : Query (Option String) := do
  choose (← Query.homeOf unit.key) (candidates unit scope name)

end JavaAtlas.Resolution
