import JavaAtlas.Fault
import JavaAtlas.Grammar
import JavaAtlas.Notice
import JavaAtlas.Toml.Document

/-! Settings of a project. A setting keeps the value it is given, of whatever kind; what the value
means is decided where it is used. -/

namespace JavaAtlas

/-- How the sources of a project are read, and what resolvers stand behind them. -/
structure Settings where
  parser : Value := .text Grammar.usual.name
  jdkCatalog : Value := .bool true
  javap : Value := .bool false
  classpath : Value := .list []
  sourceDirs : Value := .list [.text "src/main/java"]
  encoding : Value := .text "utf-8"
  skipErrors : Value := .bool true
deriving Repr, BEq, Inhabited

namespace Settings

/-- The settings with one of them changed, if there is one of that name. -/
def set? (s : Settings) (name : String) (v : Value) : Option Settings :=
  if name == "parser" then some { s with parser := v }
  else if name == "jdk_catalog" then some { s with jdkCatalog := v }
  else if name == "javap" then some { s with javap := v }
  else if name == "classpath" then some { s with classpath := v }
  else if name == "source_dirs" then some { s with sourceDirs := v }
  else if name == "encoding" then some { s with encoding := v }
  else if name == "skip_errors" then some { s with skipErrors := v }
  else none

/-- The name of a setting with a low line for each hyphen. -/
def plainName (key : String) : String :=
  String.ofList (key.toList.map fun c => if c == '-' then '_' else c)

/-- Changes settings one after the other. A name that is no setting's is noted. -/
def update (s : Settings) : List (String × Value) → Settings × List Notice
  | [] => (s, [])
  | (key, v) :: fields =>
    match s.set? (plainName key) v with
    | some s => s.update fields
    | none =>
      let (s, notices) := s.update fields
      (s, .unknownSetting key :: notices)

/-- The settings in a configuration table. -/
def ofTable (fields : List (String × Value)) : Settings × List Notice :=
  ({} : Settings).update fields

/-- The settings in a value that should be a table. -/
def ofValue : Value → Except Fault (Settings × List Notice)
  | .table fields => .ok (ofTable fields)
  | v => .error (.noItems v)

/-- What reading a configuration file gives. -/
inductive Config where
  | unreadable
  | table (fields : List (String × Value))

/-- Reads a configuration file. Bytes that are no text are an error, unlike text that is no
configuration. -/
def readConfig (disk : File.Disk) (path : File.Path) : Except Fault Config :=
  match disk.read path with
  | .error _ => .ok .unreadable
  | .ok bytes =>
    match Encoding.utf8.decode bytes with
    | .error e => .error (.decode e)
    | .ok cs =>
      match Toml.read cs with
      | none => .ok .unreadable
      | some fields => .ok (.table fields)

/-- The name of the table for this library. -/
def tableName : String := "javamodel"

/-- The table in the library's own configuration file, if there is one. -/
def ownTable (disk : File.Disk) (path : File.Path) : Except Fault (Option Value × List Notice) := do
  if !disk.holds path then return (none, [])
  match ← readConfig disk path with
  | .unreadable => return (none, [.unreadable path.text])
  | .table fields =>
    match Value.field? tableName fields with
    | some v => return (some v, [])
    | none => return (none, [.noTable path.text])

/-- The table among those of other tools in the configuration file of the project, if there is
one. -/
def toolTable (disk : File.Disk) (path : File.Path) :
    Except Fault (Option Value × List Notice) := do
  if !disk.holds path then return (none, [])
  match ← readConfig disk path with
  | .unreadable => return (none, [.unreadable path.text])
  | .table fields =>
    match Value.field? "tool" fields with
    | none => return (none, [])
    | some (.table tools) => return (Value.field? tableName tools, [])
    | some v => throw (.noFields v)

end Settings

end JavaAtlas
