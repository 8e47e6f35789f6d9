import JavaAtlas.Value

/-! Notices: what the library has to say besides its answers. -/

namespace JavaAtlas

/-- The sizes of a registry, as notices show them. -/
structure RegistrySummary where
  sources : Nat
  classes : Nat
  resolvers : Nat
deriving Repr, BEq, DecidableEq

def RegistrySummary.text (s : RegistrySummary) : String :=
  s!"Registry(sources={s.sources}, classes={s.classes}, resolvers={s.resolvers})"

/-- Something worth noting that is no error. -/
inductive Notice where
  /-- A setting that does not exist. -/
  | unknownSetting (key : String)
  /-- A configuration file without the table for this library. -/
  | noTable (path : String)
  | unreadable (path : String)
  /-- A source file that is left out because of its errors. -/
  | skipped (path : String)
  | sourceTree (directory : String) (units left : Nat)
  | missingDirectory (path : String)
  /-- A class that takes the place of one with the same name. -/
  | shadowed (name : String) (origin : Option String)
  | toolMissing
  | toolFailed (binaryName errors : String)
  | toolNotRun (reason : String)
  | resolvers (names : List String)
  | project (name : String) (sources classes : Nat)
  | saved (registry : RegistrySummary) (path : String)
  | loaded (registry : RegistrySummary)
deriving Repr, BEq, DecidableEq

/-- How much a notice matters. -/
inductive Level where
  | debug
  | warning
deriving Repr, BEq, DecidableEq

namespace Notice

def level : Notice → Level
  | .unreadable _ | .skipped _ | .missingDirectory _ | .toolMissing | .toolNotRun _ => .warning
  | _ => .debug

def text : Notice → String
  | .unknownSetting key => "Ignoring unknown javamodel setting " ++ Text.quoted key
  | .noTable path => "No [javamodel] table in " ++ path
  | .unreadable path => "Could not read " ++ path
  | .skipped path => "Skipping " ++ path
  | .sourceTree directory units left =>
    s!"Source tree {directory}: {units} units ({left} skipped)"
  | .missingDirectory path => "Source directory " ++ path ++ " not found — skipping"
  | .shadowed name origin =>
    name ++ " from " ++ origin.getD "None" ++ " shadows an earlier declaration"
  | .toolMissing => "javap not found on PATH — binary classes will not be resolved"
  | .toolFailed binaryName errors => "javap " ++ binaryName ++ " failed: " ++ errors
  | .toolNotRun reason => "Could not run javap: " ++ reason
  | .resolvers names => "Resolvers: " ++ (Value.list (names.map .text)).display
  | .project name sources classes => s!"Project {name}: {sources} sources, {classes} classes"
  | .saved registry path => "Saved " ++ registry.text ++ " to " ++ path
  | .loaded registry => "Loaded " ++ registry.text

end Notice

end JavaAtlas
