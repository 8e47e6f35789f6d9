import JavaAtlas.File.Sources
import JavaAtlas.Hierarchy
import JavaAtlas.Settings

/-! Work with registries and files: adding sources, putting together the registry of a project,
saving and loading. An action that fails keeps what it has done up to then. -/

namespace JavaAtlas

/-- A text to be read. Halves of surrogate pairs without their other halves stand in it as
replacement characters. -/
structure SourceText where
  text : String
  /-- The place of the first of such halves and the units from there on that are such halves. -/
  halves : Option (Nat × List Nat) := none
deriving Repr, BEq, DecidableEq

namespace SourceText

/-- The text of some points, with every line end as a line feed. -/
def ofPoints (points : List Encoding.Point) : SourceText :=
  let unified (points : List Encoding.Point) := Text.unifyLineEnds (points.map Encoding.Point.shown)
  let (whole, rest) := points.span (·.half?.isNone)
  { text := String.ofList (unified points)
    halves :=
      if rest.isEmpty then none
      else some ((unified whole).length,
        (rest.takeWhile (·.half?.isSome)).filterMap Encoding.Point.half?) }

/-- The declarations of a text. Current Java is read from the bytes of UTF-8, which has none for
half of a surrogate pair. -/
def read (source : SourceText) (g : Grammar) (origin : Option String) : Except Fault UnitDecl :=
  match g, source.halves with
  | .modern, some (start, units) => .error (.loneHalves start units)
  | _, _ => (g.read source.text origin).mapError .parse

end SourceText

/-- The registries and the files that actions work on. -/
structure Session where
  workspace : Workspace := {}
  disk : File.Disk := {}
deriving Inhabited

/-- Something done in a session, which may fail. -/
abbrev Action := ExceptT Fault (StateM Session)

namespace Session

def changeWorkspace (f : Workspace → Workspace) : Action Unit :=
  modify fun s => { s with workspace := f s.workspace }

def note (n : Notice) : Action Unit := changeWorkspace (·.note n)

def noteAll (ns : List Notice) : Action Unit := changeWorkspace (·.record (.ofNotices ns))

/-- Goes on unless something is wrong. -/
def check (found : Except Fault Unit) : Action Unit := ExceptT.mk (return found)

/-- Puts a question to the registries. -/
def ask {α : Type} (q : Query α) : Action α := do
  let (answer, workspace) := (← get).workspace.run q
  modify fun s => { s with workspace }
  match answer with
  | .ok a => return a
  | .error e => throw (.entry e)

/-- A registry; an empty one if there is none. -/
def registry (id : RegistryId) : Action Registry :=
  return ((← get).workspace.registry? id).getD {}

/-- A new registry. -/
def newRegistry (r : Registry) : Action RegistryId := do
  let (id, workspace) := (← get).workspace.newRegistry r
  modify fun s => { s with workspace }
  return id

/-- The unit of some declarations, registered nowhere. -/
def assemble (decl : UnitDecl) (origin : Option String) : Action SourceUnit := do
  let (unit, workspace) := (← get).workspace.assemble decl origin
  modify fun s => { s with workspace }
  return unit

def addUnit (id : RegistryId) (u : SourceUnit) : Action Unit := changeWorkspace (·.addUnit id u)

def addResolver (id : RegistryId) (link : Link) : Action Unit :=
  changeWorkspace (·.addResolver id link)

/-- Reads a text in the grammar of a registry and registers the unit. -/
def addSource (id : RegistryId) (source : SourceText) (origin : Option String) :
    Action SourceUnit := do
  let name := (← registry id).grammar
  let some grammar := Grammar.ofValue? name | throw (.unknownGrammar name)
  match source.read grammar origin with
  | .error e => throw e
  | .ok decl =>
    let unit ← assemble decl origin
    addUnit id unit
    return unit

/-- The encoding that a setting names. Where it names none, it is UTF-8. -/
def encodingNamed : Value → Except Fault Encoding
  | .null => .ok .utf8
  | .text name =>
    match Encoding.ofName? name with
    | some e => .ok e
    | none =>
      .error (if Encoding.isTransformation name then .noTextEncoding name
        else if Encoding.isUnsupported name then .unsupportedEncoding name
        else .unknownEncoding name)
  | v => .error (.encodingName v)

/-- An encoding is named by a text without the null character, or not at all. -/
def checkEncodingName : Value → Except Fault Unit
  | .null => .ok ()
  | .text name => if name.toList.contains '\x00' then .error .nullInName else .ok ()
  | v => .error (.encodingName v)

/-- A path does not hold the null character. -/
def checkPath (path : File.Path) : Except Fault Unit :=
  if path.text.toList.contains '\x00' then .error .nullInPath else .ok ()

/-- The text of a file. The file has to be there before its encoding is looked for. -/
def textOf (disk : File.Disk) (path : File.Path) (encoding : Value) :
    Except Fault SourceText := do
  checkEncodingName encoding
  checkPath path
  match disk.read path with
  | .error cause => throw (.file ⟨cause, [path.text]⟩)
  | .ok bytes =>
    match (← encodingNamed encoding).points bytes with
    | .error e => throw (.decode e)
    | .ok points => return .ofPoints points

/-- Adds a source file. -/
def addFile (id : RegistryId) (path : File.Path) (encoding : Value) : Action SourceUnit := do
  match textOf (← get).disk path encoding with
  | .error e => throw e
  | .ok source => addSource id source (some path.text)

/-- A fault of a single file, for which the file may be left out: it is no text or no Java. -/
def isSkippable : Fault → Bool
  | .parse _ => true
  | .decode (.invalid _) => true
  | _ => false

/-- Adds source files one after the other, and leaves out those with errors if that is asked for.
The answer has the units and the number of files left out. -/
def addFiles (id : RegistryId) (skipErrors : Bool) (encoding : Value) :
    List File.Path → Action (List SourceUnit × Nat)
  | [] => return ([], 0)
  | path :: paths => do
    let added ← tryCatch (some <$> addFile id path encoding) fun e => do
      if skipErrors && isSkippable e then
        note (.skipped path.text)
        return none
      else throw e
    let (units, left) ← addFiles id skipErrors encoding paths
    match added with
    | some unit => return (unit :: units, left)
    | none => return (units, left + 1)

/-- No name in a path is too long. Where it matters whether there is something at the path, such a
name is a fault. -/
def checkLength (path : File.Path) : Action Unit := do
  match (← get).disk.lookup path with
  | .error .nameTooLong => throw (.file ⟨.nameTooLong, [path.text]⟩)
  | _ => return

/-- Adds all source files below a directory, which notices call `shown`. -/
def addTree (id : RegistryId) (shown : String) (directory : File.Path) (skipErrors : Bool)
    (encoding : Value) : Action (List SourceUnit) := do
  checkLength directory
  let (units, left) ← addFiles id skipErrors encoding ((← get).disk.sources directory)
  note (.sourceTree shown units.length left)
  return units

/-- Takes what a settings reader found, with its notices. -/
def take {α : Type} (found : Except Fault (α × List Notice)) : Action α := do
  match found with
  | .error e => throw e
  | .ok (a, notices) =>
    noteAll notices
    return a

/-- The settings of a project: from the library's own configuration file or else from that of the
project, or the usual ones. -/
def loadSettings (directory : File.Path) : Action Settings := do
  let disk := (← get).disk
  checkLength (directory.join (.ofText ".javamodel.toml"))
  match ← take (Settings.ownTable disk (directory.join (.ofText ".javamodel.toml"))) with
  | some v => take (Settings.ofValue v)
  | none =>
    match ← take (Settings.toolTable disk (directory.join (.ofText "pyproject.toml"))) with
    | some v => take (Settings.ofValue v)
    | none => return {}

/-- The items of a setting that should be a list. -/
def itemsOf (v : Value) : Action (List Value) :=
  match v.members? with
  | some items => return items
  | none => throw (.notList v)

/-- A path in a list of settings, seen from a directory. -/
def pathIn (directory : File.Path) : Value → Action File.Path
  | .text s => return directory.join (.ofText s)
  | v => throw (.notPath v)

/-- Adds the resolvers that settings ask for. A class path asks for compiled classes, too. -/
def attach (id : RegistryId) (settings : Settings) (directory : File.Path) : Action Unit := do
  if settings.jdkCatalog.isOn then addResolver id { resolver := .core }
  if settings.javap.isOn || settings.classpath.isOn then
    let paths ← (← itemsOf settings.classpath).mapM (pathIn directory)
    addResolver id { resolver := .binaries (paths.map File.Path.text) none }

/-- The words for the resolvers of a registry. -/
def resolverWords (r : Registry) : List String :=
  r.chain.map fun link => if link.label.isSome then "Recording" else link.resolver.kindWord

/-- Adds the sources of a project, directory by directory. One that is missing is noted. -/
def addDirectories (id : RegistryId) (settings : Settings) (project : File.Path) :
    List Value → Action Unit
  | [] => return
  | v :: vs => do
    let root ← pathIn project v
    checkLength root
    if (← get).disk.isDirectory root then
      let _ ← addTree id root.text root settings.skipErrors.isOn settings.encoding
    else note (.missingDirectory root.text)
    addDirectories id settings project vs

/-- Puts together the registry of a project, with its own settings unless others are given. -/
def build (directory : File.Path) (given : Option Settings) : Action RegistryId := do
  check (checkPath directory)
  let project := (← get).disk.here.absolute directory
  let settings ← match given with
    | some s => pure s
    | none => loadSettings project
  let id ← newRegistry { grammar := settings.parser }
  attach id settings project
  note (.resolvers (resolverWords (← registry id)))
  addDirectories id settings project (← itemsOf settings.sourceDirs)
  let r ← registry id
  note (.project project.name r.units.length r.classes.length)
  return id

/-- The bytes of a saved registry. -/
def savedBytes (id : RegistryId) : Action (List UInt8) :=
  return (Snapshot.Payload.ofImage (Snapshot.capture (← get).workspace id)).write

/-- Does something with the files. -/
def onDisk (change : File.Disk → Except File.Cause File.Disk) (paths : List String) :
    Action (Option File.Error) := do
  match change (← get).disk with
  | .ok disk =>
    modify fun s => { s with disk }
    return none
  | .error cause => return some ⟨cause, paths⟩

/-- Gives up saving: removes the file that was begun, if there is one. -/
def giveUp (path begun : File.Path) (e : File.Error) : Action Unit := do
  match ← onDisk (·.remove begun) [begun.text] with
  | some trouble => if trouble.cause != .absent then throw (.file trouble)
  | none => pure ()
  throw (.notSaved path.text e)

/-- Saves a registry in a file. It is first written beside the file and then put in its place. -/
def save (id : RegistryId) (path : File.Path) : Action Unit := do
  if path.name.isEmpty then throw (.unnamed path.text)
  let bytes ← savedBytes id
  let begun := path.withEnding ".tmp"
  check (checkPath begun)
  if let some e ← onDisk (·.write begun bytes) [begun.text] then giveUp path begun e
  if let some e ← onDisk (·.replace begun path) [begun.text, path.text] then giveUp path begun e
  note (.saved (← registry id).summary path.text)

/-- Loads a registry from the bytes of a saved one. -/
def loadBytes (bytes : List UInt8) : Action RegistryId := do
  match Snapshot.load bytes with
  | .error e => throw (.load e)
  | .ok image =>
    let (id, workspace) := Snapshot.restoreInto (← get).workspace image
    modify fun s => { s with workspace }
    note (.loaded (← registry id).summary)
    return id

/-- Loads a registry from a file. -/
def load (path : String) : Action RegistryId := do
  if path.toList.contains '\x00' then throw (.load .corrupt)
  match (← get).disk.readText path with
  | .error cause => throw (.notRead path ⟨cause, [path]⟩)
  | .ok bytes => loadBytes bytes

/-- The names in a directory, in order. -/
def list (path : File.Path) : Action (List String) := do
  check (checkPath path)
  match (← get).disk.names path with
  | .error cause => throw (.file ⟨cause, [path.text]⟩)
  | .ok names => return names.mergeSort fun a b => !(b < a : Bool)

end Session

end JavaAtlas
