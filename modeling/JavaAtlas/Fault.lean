import JavaAtlas.Encoding
import JavaAtlas.Entry
import JavaAtlas.File.Tree
import JavaAtlas.ParseError
import JavaAtlas.Snapshot.Basic

/-! What can go wrong, by its cause. -/

namespace JavaAtlas

/-- Why an operation fails. -/
inductive Fault where
  | parse (e : ParseError)
  | unknownGrammar (name : Value)
  | entry (e : EntryError)
  | file (e : File.Error)
  | decode (e : DecodeError)
  /-- A text cannot be written in UTF-8: halves of surrogate pairs stand alone from this place on. -/
  | loneHalves (start : Nat) (units : List Nat)
  | unknownEncoding (name : String)
  /-- There is an encoding of this name, but no reader for it: what its bytes come to is not told. -/
  | unsupportedEncoding (name : String)
  /-- A name is one of a transformation whose result is no text. -/
  | noTextEncoding (name : String)
  /-- The name of an encoding holds the null character. -/
  | nullInName
  /-- A path holds the null character. -/
  | nullInPath
  /-- The name of an encoding is no text. -/
  | encodingName (given : Value)
  /-- A configuration table is asked for its items and is no table. -/
  | noItems (given : Value)
  /-- A configuration table is asked for a field and is no table. -/
  | noFields (given : Value)
  /-- A list of settings is no list. -/
  | notList (given : Value)
  /-- A path in a list of settings is no text. -/
  | notPath (given : Value)
  /-- A path without a last component cannot be saved to. -/
  | unnamed (path : String)
  | notSaved (path : String) (e : File.Error)
  | notRead (path : String) (e : File.Error)
  | load (e : Snapshot.LoadError)
deriving Repr, BEq

namespace Fault

def entryText : EntryError → String
  | .missingName => Text.quoted "name"
  | .missingType => Text.quoted "type"

def decodeText : DecodeError → String
  | .invalid start => s!"invalid data at position {start}"
  | .unmarked bits => s!"UTF-{bits} stream does not start with BOM"
  | .undefined => "undefined encoding"

def loneHalvesText (start : Nat) (units : List Nat) : String :=
  let place : String := match units with
    | [unit] => " '\\u" ++ String.ofList (Text.hexDigits 4 unit) ++ s!"' in position {start}"
    | _ => s!"s in position {start}-{start + units.length - 1}"
  "'utf-8' codec can't encode character" ++ place ++ ": surrogates not allowed"

def loadText : Snapshot.LoadError → String
  | .corrupt => "Corrupt registry data"
  | .foreign => "Not a saved javamodel registry"
  | .version v => "Unsupported registry format version " ++ v.display
  | .noRegistry => "Saved payload does not contain a registry"

/-- The kind of a value in apostrophes. -/
def kindText (v : Value) : String := "'" ++ v.kindWord ++ "'"

/-- The fault in one line. -/
def text : Fault → String
  | .parse e => e.text
  | .unknownGrammar name => "Unknown parser backend: " ++ name.display
  | .entry e => entryText e
  | .file e => e.text
  | .decode e => decodeText e
  | .loneHalves start units => loneHalvesText start units
  | .unknownEncoding name => "unknown encoding: " ++ name
  | .unsupportedEncoding name => "unsupported encoding: " ++ name
  | .noTextEncoding name =>
    "'" ++ name ++ "' is not a text encoding; use codecs.open() to handle arbitrary codecs"
  | .nullInName => "embedded null character"
  | .nullInPath => "embedded null byte"
  | .encodingName given =>
    "open() argument 'encoding' must be str or None, not " ++ given.kindWord
  | .noItems given => kindText given ++ " object has no attribute 'items'"
  | .noFields given => kindText given ++ " object has no attribute 'get'"
  | .notList given => kindText given ++ " object is not iterable"
  | .notPath given => "unsupported operand type(s) for /: 'PosixPath' and " ++ kindText given
  | .unnamed path => "PosixPath(" ++ Text.quoted path ++ ") has an empty name"
  | .notSaved path e => "Could not save registry to " ++ path ++ ": " ++ e.text
  | .notRead path e => "Could not read registry from " ++ path ++ ": " ++ e.text
  | .load e => loadText e

end Fault

end JavaAtlas
