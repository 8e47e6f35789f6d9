import JavaAtlas.Snapshot.Stored
import JavaAtlas.Workspace

/-! Snapshots of registries. A snapshot holds the units of a registry and whatever other registries
those units belong to. Resolvers and what they answered are left out. -/

namespace JavaAtlas.Snapshot

/-- A registry in a snapshot: its grammar and its units by their positions. -/
structure SavedRegistry where
  grammar : Value
  units : List Nat
deriving Repr, BEq, Inhabited

/-- A unit in a snapshot: what it holds, and the registry it belongs to by its position. -/
structure SavedUnit where
  package : String
  imports : List String
  staticImports : List String
  types : List TypeDecl
  origin : Option String
  home : Option Nat
deriving Repr, BEq, Inhabited

/-- What is saved of a registry, which is the first one. -/
structure Image where
  registries : List SavedRegistry
  units : List SavedUnit
deriving Repr, BEq, Inhabited

instance : Stored SavedRegistry :=
  .via (fun r => (r.grammar, r.units)) (fun p => some ⟨p.1, p.2⟩) fun _ => rfl

instance : Stored SavedUnit :=
  .via (fun u => (u.package, u.imports, u.staticImports, u.types, u.origin, u.home))
    (fun p => some ⟨p.1, p.2.1, p.2.2.1, p.2.2.2.1, p.2.2.2.2.1, p.2.2.2.2.2⟩) fun _ => rfl

instance : Stored Image :=
  .via (fun s => (s.registries, s.units)) (fun p => some ⟨p.1, p.2⟩) fun _ => rfl

/-- The registry of a unit. -/
def homeOf (w : Workspace) (u : SourceUnit) : Option RegistryId :=
  match u.key with
  | .source number => w.home? number
  | .outside registry _ => registry

/-- The units of a registry. -/
def unitsOf (w : Workspace) (id : RegistryId) : List SourceUnit :=
  ((w.registry? id).map Registry.units).getD []

/-- The list with what is new of another one at its end, each once. -/
def extend {α : Type} [BEq α] (known : List α) (more : List α) : List α :=
  more.foldl (fun known a => if known.contains a then known else known ++ [a]) known

/-- The registries together with those that their units belong to, found in at most `n` rounds. -/
def closure (w : Workspace) : Nat → List RegistryId → List RegistryId
  | 0, ids => ids
  | n + 1, ids => closure w n (extend ids ((ids.flatMap (unitsOf w)).filterMap (homeOf w)))

/-- The snapshot of a registry. There are no more rounds than registries, for each round but the
last finds one. -/
def capture (w : Workspace) (id : RegistryId) : Image :=
  let ids := closure w w.registries.length [id]
  let keys := extend [] ((ids.flatMap (unitsOf w)).map SourceUnit.key)
  let units := keys.filterMap fun key => (ids.flatMap (unitsOf w)).find? fun u => u.key == key
  { registries := ids.map fun id =>
      { grammar := ((w.registry? id).map Registry.grammar).getD .null
        units := (unitsOf w id).map fun u => keys.idxOf u.key }
    units := units.map fun u =>
      { package := u.package, imports := u.imports, staticImports := u.staticImports
        types := u.types, origin := u.origin, home := (homeOf w u).map fun id => ids.idxOf id } }

/-- The unit of a snapshot under a new number. -/
def SavedUnit.renew (u : SavedUnit) (number : Nat) : SourceUnit :=
  { key := .source number, package := u.package, imports := u.imports
    staticImports := u.staticImports, types := u.types, origin := u.origin }

/-- The registry of a snapshot with the given units. -/
def SavedRegistry.renew (r : SavedRegistry) (units : List SourceUnit) : Registry :=
  let own := r.units.filterMap fun i => units[i]?
  { grammar := r.grammar, units := own
    index := Registry.enterAll [] (own.flatMap SourceUnit.classes) }

/-- Adds the registries and units of a snapshot to a workspace, all of them new. The answer is the
registry that was saved. -/
def restoreInto (w : Workspace) (s : Image) : RegistryId × Workspace :=
  let first := w.registries.length
  let units := s.units.mapIdx fun i u => u.renew (w.unitCount + i)
  let homes := s.units.mapIdx fun i u => u.home.map fun r => (w.unitCount + i, ⟨first + r⟩)
  (⟨first⟩,
    { w with
      registries := w.registries ++ s.registries.map fun r => r.renew units
      homes := homes.filterMap id ++ w.homes
      unitCount := w.unitCount + s.units.length })

/-- What a field of a saved table may be: a value or a registry. -/
inductive Part where
  | value (v : Value)
  | registry (s : Image)
deriving Repr, BEq, Inhabited

/-- What a file may hold: a table, or something else. -/
inductive Payload where
  | table (fields : List (String × Part))
  | other (v : Value)
deriving Repr, BEq, Inhabited

instance : Stored Part :=
  .via (fun
    | .value v => (some v, none)
    | .registry s => (none, some s))
    (fun
    | (some v, none) => some (.value v)
    | (none, some s) => some (.registry s)
    | _ => none) fun p => by cases p <;> rfl

instance : Stored Payload :=
  .via (fun
    | .table fields => (some fields, none)
    | .other v => (none, some v))
    (fun
    | (some fields, none) => some (.table fields)
    | (none, some v) => some (.other v)
    | _ => none) fun p => by cases p <;> rfl

/-- Why a file gives no registry. -/
inductive LoadError where
  | corrupt
  | foreign
  | version (v : Value)
  | noRegistry
deriving Repr, BEq

/-- The name of the format, and its version. -/
def formatName : String := "javamodel"

def formatVersion : Nat := 1

/-- What is saved of a registry. -/
def Payload.ofImage (s : Image) : Payload :=
  .table [("format", .value (.text formatName)), ("version", .value (.int formatVersion)),
    ("registry", .registry s)]

/-- The first bytes of every file. -/
def mark : List UInt8 := "java atlas\n".toUTF8.toList

/-- The bytes of a payload: the mark, the length of the data and the data. -/
def Payload.write (p : Payload) : List UInt8 :=
  let data := (store p).write
  mark ++ numberBytes data.length ++ data

/-- The payload of some bytes. What stands after the data is not looked at. -/
def Payload.read? (bytes : List UInt8) : Option Payload := do
  if !mark.isPrefixOf bytes then none
  let (length, rest) ← readNumber (bytes.drop mark.length)
  if rest.length < length then none
  let data := rest.take length
  let (d, left) ← Datum.read length data
  if !left.isEmpty then none
  restore d

/-- A value of a payload's field. -/
def isText (s : String) : Option Part → Bool
  | some (.value (.text t)) => t == s
  | _ => false

/-- The registry in a payload. The format is looked at first, then its version. -/
def Payload.image : Payload → Except LoadError Image
  | .other _ => .error .foreign
  | .table fields =>
    if !isText formatName (fields.lookup "format") then .error .foreign
    else
      match fields.lookup "version" with
      | some (.value v) =>
        if !v.isOne then .error (.version v)
        else
          match fields.lookup "registry" with
          | some (.registry s) => .ok s
          | _ => .error .noRegistry
      | some (.registry _) | none => .error (.version .null)

/-- The snapshot in some bytes. -/
def load (bytes : List UInt8) : Except LoadError Image :=
  match Payload.read? bytes with
  | none => .error .corrupt
  | some p => p.image

end JavaAtlas.Snapshot
