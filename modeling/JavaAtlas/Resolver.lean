import JavaAtlas.Catalog.Core
import JavaAtlas.Listing.Basic
import JavaAtlas.Notice

/-! Resolvers: where classes come from that no source declares. -/

namespace JavaAtlas

/-- What comes of running the listing tool on a class. -/
inductive ToolRun where
  | finished (code : Int) (output errors : String)
  | notRun (reason : String)
deriving Repr, BEq, DecidableEq

/-- The listing tool of the machine: the command that is found for it, and what comes of running it
on a binary name. A name with no outcome is a class that is not there. -/
structure Tool where
  command : Option String := none
  runs : List (String × ToolRun) := []
deriving Repr, Inhabited

namespace Tool

def run (tool : Tool) (binaryName : String) : ToolRun :=
  (tool.runs.lookup binaryName).getD
    (.finished 1 "" ("Error: class not found: " ++ binaryName ++ "\n"))

end Tool

/-- A source of classes by full name: a catalog of entries, compiled classes behind the listing
tool, or bare classes without members. -/
inductive Resolver where
  | catalog (name : String) (entries : List (String × Entry))
  | binaries (classpath : List String) (command : Option String)
  | bare (kinds : List (String × TypeKind))
deriving Repr, Inhabited

/-- What a resolver answers, and what it did for it. -/
structure Reply where
  answer : Except EntryError (Option Class)
  commands : List (List String) := []
  notices : List Notice := []

namespace Resolver

/-- The catalog of core types. -/
def core : Resolver := .catalog "jdk" Catalog.core

/-- The word for the kind of a resolver. -/
def kindWord : Resolver → String
  | .catalog .. => "CatalogResolver"
  | .binaries .. => "JavapResolver"
  | .bare _ => "BareResolver"

/-- The command line that lists a class. -/
def commandLine (command : String) (classpath : List String) (binaryName : String) : List String :=
  let path := if classpath.isEmpty then [] else ["-cp", ":".intercalate classpath]
  [command, "-public"] ++ path ++ [binaryName]

/-- Lists the classes of some binary names until one has a listing that can be read. -/
def listFirst (tool : Tool) (command : String) (classpath : List String) (key : UnitKey)
    (fullName : String) : List String → Reply
  | [] => { answer := .ok none }
  | binaryName :: others =>
    let line := commandLine command classpath binaryName
    let goOn (notices : List Notice) : Reply :=
      let later := listFirst tool command classpath key fullName others
      { later with commands := line :: later.commands, notices := notices ++ later.notices }
    match tool.run binaryName with
    | .notRun reason => goOn [.toolNotRun reason]
    | .finished code output errors =>
      if code != 0 then goOn [.toolFailed binaryName (Text.trimmed errors)]
      else
        match Listing.read output with
        | none => goOn []
        | some entry =>
          { answer := (entry.toClass key fullName "resolver:javap").map some, commands := [line] }

/-- The command of the listing tool: the one that is set, unless that is empty, or the one that is
found. -/
def commandOf (tool : Tool) (command : Option String) : Option String :=
  (command.filter (!·.isEmpty)).or tool.command

/-- Asks a resolver for the class of a full name. A class that it knows goes under the given key.
A missing tool is noted unless that has been done before. -/
def ask (r : Resolver) (tool : Tool) (warned : Bool) (key : UnitKey) (fullName : String) : Reply :=
  match r with
  | .catalog name entries =>
    match Catalog.entry? entries fullName with
    | none => { answer := .ok none }
    | some entry => { answer := (entry.toClass key fullName ("resolver:" ++ name)).map some }
  | .binaries classpath command =>
    match commandOf tool command with
    | none => { answer := .ok none, notices := if warned then [] else [.toolMissing] }
    | some command =>
      listFirst tool command classpath key fullName (Name.binaryNames fullName)
  | .bare kinds =>
    match kinds.lookup fullName with
    | none => { answer := .ok none }
    | some kind =>
      { answer := .ok (some
          { key, unit := none, path := [0], decl := { kind, name := fullName } }) }

/-- The number of names that a resolver may know. A binary name stands for as many names as its
dollar signs can be read in ways. -/
def reach (tool : Tool) : Resolver → Nat
  | .catalog _ entries => entries.length
  | .binaries .. => tool.runs.foldr (fun (name, _) n => Nat.pow 2 (name.toList.count '$') + n) 0
  | .bare kinds => kinds.length

end Resolver

end JavaAtlas
