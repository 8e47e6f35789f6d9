import JavaAtlas.Generics
import JavaAtlas.Listing.Member

/-! Class listings, as a disassembler prints them: a header and a line for each member, up to a
closing brace. -/

namespace JavaAtlas.Listing

/-- The entry that a header starts. An interface extends interfaces; the root class is not noted as
a superclass. -/
def Header.entry (h : Header) : Entry :=
  let extended := classNames (h.extends?.getD [])
  let implemented := classNames (h.implements?.getD [])
  let modifiers := texts (h.modifiers.filter isModifier)
  if h.kind.isInterface then
    { kind := h.kind, modifiers, interfaces := extended ++ implemented }
  else
    { kind := h.kind, modifiers, interfaces := implemented
      superclass := extended.head?.filter (· != "java.lang.Object") }

/-- The entry with one more member. -/
def addMember (e : Entry) : Member → Entry
  | .field f => { e with fields := e.fields ++ [f] }
  | .method m => { e with methods := e.methods ++ [m] }

/-- A line without type arguments and outer blanks. -/
def plainLine (line : List Char) : List Char := Text.trim (Generics.outside line)

/-- The lines that say something. -/
def isTelling (line : List Char) : Bool :=
  !line.isEmpty && !"Compiled from".toList.isPrefixOf line

/-- Reads the member lines of the class `owner` up to the closing brace. A line without a semicolon
is skipped. -/
def readMembers (owner : String) (e : Entry) : List (List Char) → Entry
  | [] => e
  | line :: lines =>
    if line == ['\x7d'] then e
    else if line.getLast? != some ';' then readMembers owner e lines
    else
      match member? owner line.dropLast with
      | some m => readMembers owner (addMember e m) lines
      | none => readMembers owner e lines

/-- Reads the first header among the lines and the members after it. -/
def readLines : List (List Char) → Option Entry
  | [] => none
  | line :: lines =>
    match header? line with
    | some h => some (readMembers (className h.name) h.entry lines)
    | none => readLines lines

/-- The entry that a listing describes, if it has a header. -/
def read (text : String) : Option Entry :=
  readLines (((Text.lines text.toList).map plainLine).filter isTelling)

end JavaAtlas.Listing
