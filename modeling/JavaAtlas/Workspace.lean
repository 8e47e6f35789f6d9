import JavaAtlas.Registry

/-! A workspace: several registries, and for each assembled unit the registry it belongs to. A unit
that is registered twice belongs to the registry that took it last. -/

namespace JavaAtlas

/-- The registries, numbered in the order of their making, and the units they share. -/
structure Workspace where
  registries : List Registry := []
  /-- The registry of each unit that has one, by the unit's number. -/
  homes : List (Nat × RegistryId) := []
  /-- The number of units assembled so far. -/
  unitCount : Nat := 0
  tool : Tool := {}
  trace : Trace := {}
deriving Inhabited

namespace Workspace

def registry? (w : Workspace) (id : RegistryId) : Option Registry := w.registries[id.number]?

/-- The workspace with another registry in the place of one. -/
def setRegistry (w : Workspace) (id : RegistryId) (r : Registry) : Workspace :=
  { w with registries := w.registries.set id.number r }

/-- Adds a registry. -/
def newRegistry (w : Workspace) (r : Registry) : RegistryId × Workspace :=
  (⟨w.registries.length⟩, { w with registries := w.registries ++ [r] })

/-- Records what was done. -/
def record (w : Workspace) (t : Trace) : Workspace := { w with trace := w.trace ++ t }

def note (w : Workspace) (n : Notice) : Workspace := w.record (.ofNotices [n])

/-- The unit of some declarations, which belongs to no registry yet. -/
def assemble (w : Workspace) (decl : UnitDecl) (origin : Option String) : SourceUnit × Workspace :=
  (.assemble (.source w.unitCount) decl origin, { w with unitCount := w.unitCount + 1 })

/-- The registry of the unit with a number. -/
def home? (w : Workspace) (number : Nat) : Option RegistryId := w.homes.lookup number

/-- The unit belongs to the registry from now on. Only units that were assembled change hands: one
that stands around a class of a resolver keeps the registry that took the class in, since no action
hands such a unit out to be registered elsewhere. -/
def settle (w : Workspace) (key : UnitKey) (id : RegistryId) : Workspace :=
  match key with
  | .source number =>
    { w with homes := (number, id) :: w.homes.filter fun (n, _) => n != number }
  | .outside .. => w

/-- Registers a unit. -/
def addUnit (w : Workspace) (id : RegistryId) (u : SourceUnit) : Workspace :=
  match w.registry? id with
  | none => w
  | some r =>
    let (r, trace) := r.addUnit u
    ((w.settle u.key id).setRegistry id r).record trace

/-- Adds a resolver to the chain of a registry. -/
def addResolver (w : Workspace) (id : RegistryId) (link : Link) : Workspace :=
  match w.registry? id with
  | none => w
  | some r => w.setRegistry id (r.addResolver link)

/-- Looks a class up in a registry. -/
def find (w : Workspace) (id : RegistryId) (name : String) :
    Except EntryError (Option Class) × Workspace :=
  match w.registry? id with
  | none => (.ok none, w)
  | some r =>
    let lookup := r.find w.tool id name
    (lookup.answer, (w.setRegistry id lookup.registry).record lookup.trace)

/-- A bound on the number of names that the registries know. -/
def reach (w : Workspace) : Nat := w.registries.foldr (fun r n => r.reach w.tool + n) 0

/-- Answers a question. What is looked up on the way is remembered, also when a look-up fails. -/
def run {α : Type} : Query α → Workspace → Except EntryError α × Workspace
  | .answer a, w => (.ok a, w)
  | .home unit next, w => run (next (w.home? unit)) w
  | .sources id next, w => run (next ((w.registry? id).map Registry.units |>.getD [])) w
  | .reach next, w => run (next w.reach) w
  | .find id name next, w =>
    match w.find id name with
    | (.ok found, w) => run (next found) w
    | (.error e, w) => (.error e, w)

end Workspace

end JavaAtlas
