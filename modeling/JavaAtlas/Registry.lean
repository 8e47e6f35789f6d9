import JavaAtlas.Grammar
import JavaAtlas.Query
import JavaAtlas.Resolver

/-! A registry: the units it was given, the index of their classes by full name, and the chain of
resolvers for names that no unit declares. What the resolvers answer is remembered. -/

namespace JavaAtlas

/-- A resolver in a chain. Calls of a labelled one are recorded. -/
structure Link where
  resolver : Resolver
  label : Option String := none
  /-- The missing tool has been noted. -/
  warned : Bool := false
deriving Repr, Inhabited

/-- A record of what was done: the calls of labelled resolvers with the names they were asked for,
the command lines that were run, and the notices. -/
structure Trace where
  calls : List (String × String) := []
  commands : List (List String) := []
  notices : List Notice := []
deriving Repr, BEq, Inhabited

namespace Trace

def append (a b : Trace) : Trace :=
  ⟨a.calls ++ b.calls, a.commands ++ b.commands, a.notices ++ b.notices⟩

instance : Append Trace := ⟨append⟩

def ofNotices (notices : List Notice) : Trace := { notices }

end Trace

/-- Units, their classes and the resolvers behind them. The grammar is kept as it was named, since
it is only looked at when a text is read. -/
structure Registry where
  grammar : Value := .text Grammar.usual.name
  /-- The units in the order of registration. -/
  units : List SourceUnit := []
  /-- The last registered class of each full name. -/
  index : List (String × Class) := []
  chain : List Link := []
  /-- The classes that resolvers have answered, by the names asked for. -/
  hits : List (String × Class) := []
  /-- The names that no resolver knew since the last one was added. -/
  misses : List String := []
deriving Inhabited

/-- What a look-up answers, the registry after it, and what was done. -/
structure Lookup where
  answer : Except EntryError (Option Class)
  registry : Registry
  trace : Trace := {}

namespace Registry

/-- All classes of all units, also those that others have replaced in the index. -/
def classes (r : Registry) : List Class := r.units.flatMap SourceUnit.classes

def summary (r : Registry) : RegistrySummary := ⟨r.units.length, r.index.length, r.chain.length⟩

/-- The class takes its place in the index, away from one of the same name. -/
def enter (index : List (String × Class)) (c : Class) : List (String × Class) :=
  (c.fullName, c) :: index.filter fun (name, _) => name != c.fullName

/-- The index after some classes took their places one after the other. -/
def enterAll (index : List (String × Class)) (cs : List Class) : List (String × Class) :=
  cs.foldl enter index

/-- The notices about classes that replace others in the index. -/
def shadowings (origin : Option String) (index : List (String × Class)) : List Class → List Notice
  | [] => []
  | c :: cs =>
    let later := shadowings origin (enter index c) cs
    if (index.lookup c.fullName).isSome then .shadowed c.fullName origin :: later else later

/-- Registers a unit. Remembered answers stay: the index comes before them. -/
def addUnit (r : Registry) (u : SourceUnit) : Registry × Trace :=
  ({ r with units := r.units ++ [u], index := enterAll r.index u.classes },
    .ofNotices (shadowings u.origin r.index u.classes))

/-- Adds a resolver at the end of the chain. It may know names that were missed before. -/
def addResolver (r : Registry) (link : Link) : Registry :=
  { r with chain := r.chain ++ [link], misses := [] }

/-- The call of a resolver, if it is recorded. -/
def Link.calls (link : Link) (name : String) : List (String × String) :=
  link.label.toList.map fun label => (label, name)

/-- Asks the resolvers of a chain one after the other until one knows the name. -/
def askChain (tool : Tool) (key : UnitKey) (name : String) :
    List Link → Except EntryError (Option Class) × List Link × Trace
  | [] => (.ok none, [], {})
  | link :: links =>
    let reply := link.resolver.ask tool link.warned key name
    let link' := { link with warned := link.warned || reply.notices.contains .toolMissing }
    let trace : Trace := ⟨Link.calls link name, reply.commands, reply.notices⟩
    match reply.answer with
    | .ok none =>
      let (answer, links', later) := askChain tool key name links
      (answer, link' :: links', trace ++ later)
    | answer => (answer, link' :: links, trace)

/-- The class of a full name: the one in the index, or else the one that the first resolver knows
under it. An empty name names nothing. Answers of resolvers are remembered, failures are not. -/
def find (r : Registry) (tool : Tool) (id : RegistryId) (name : String) : Lookup :=
  if name.isEmpty then ⟨.ok none, r, {}⟩
  else
    match (r.index.lookup name).or (r.hits.lookup name) with
    | some c => ⟨.ok (some c), r, {}⟩
    | none =>
      if r.misses.contains name then ⟨.ok none, r, {}⟩
      else
        let (answer, chain, trace) := askChain tool (.outside (some id) name) name r.chain
        match answer with
        | .ok (some c) => ⟨.ok (some c), { r with chain, hits := (name, c) :: r.hits }, trace⟩
        | .ok none => ⟨.ok none, { r with chain, misses := name :: r.misses }, trace⟩
        | .error e => ⟨.error e, { r with chain }, trace⟩

/-- A bound on the number of names that a registry knows. -/
def reach (r : Registry) (tool : Tool) : Nat :=
  r.chain.foldr (fun link n => link.resolver.reach tool + n) r.index.length

end Registry

end JavaAtlas
