import JavaAtlas.Declaration
import JavaAtlas.Text.Blank
import JavaAtlas.Text.Category

/-! The header line of a class listing: modifiers, the kind and name of the class, and clauses with
the names of other classes, up to an opening brace. A line may be read in several ways; the readings
are tried in a fixed order, and each reader is given what has to follow. -/

namespace JavaAtlas.Listing

/-- The header of a listing. The clauses are kept as they are written. -/
structure Header where
  modifiers : List (List Char)
  kind : TypeKind
  name : List Char
  extends? : Option (List Char)
  implements? : Option (List Char)
deriving Repr, BEq

/-- A character of a modifier. -/
def isModifierChar (c : Char) : Bool := Text.isWordChar c || c == '-'

/-- A character of a class name. -/
def isNameChar (c : Char) : Bool := Text.isWordChar c || c == '.' || c == '$'

/-- A character of a clause. -/
def isClauseChar (c : Char) : Bool := isNameChar c || c == ',' || Text.isBlank c

/-- What stands after a word at the front of a text. -/
def after? (word : String) (cs : List Char) : Option (List Char) :=
  if word.toList.isPrefixOf cs then some (cs.drop word.length) else none

/-- What stands after one or more characters of a class, as many as there are. -/
def afterRun? (p : Char → Bool) (cs : List Char) : Option (List Char) :=
  match cs with
  | c :: rest => if p c then some (rest.dropWhile p) else none
  | [] => none

/-- Reads on after the characters in `run`, which are in reverse order, or after fewer of them. At
least one is left out of what is read on. -/
def orFewer {α : Type} (next : List Char → Option α) : List Char → List Char → Option α
  | [], _ => none
  | c :: run, rest =>
    match next rest with
    | some a => some a
    | none => orFewer next run (c :: rest)

/-- One or more blanks, first as many as there are. -/
def blanks {α : Type} (next : List Char → Option α) (cs : List Char) : Option α :=
  orFewer next (cs.takeWhile Text.isBlank).reverse (cs.dropWhile Text.isBlank)

/-- More characters of a clause, first as few as possible. `taken` is in reverse order. -/
def clauseFrom {α : Type} (next : List Char → List Char → Option α) (taken : List Char) :
    List Char → Option α
  | [] => next taken.reverse []
  | c :: cs =>
    match next taken.reverse (c :: cs) with
    | some a => some a
    | none => if isClauseChar c then clauseFrom next (c :: taken) cs else none

/-- The text of a clause, first as short as possible. -/
def clauseText {α : Type} (next : List Char → List Char → Option α) : List Char → Option α
  | [] => none
  | c :: cs => if isClauseChar c then clauseFrom next [c] cs else none

/-- A clause after its keyword, between blanks. A clause may be missing. -/
def clause {α : Type} (word : String) (next : Option (List Char) → List Char → Option α)
    (cs : List Char) : Option α :=
  let present :=
    (afterRun? Text.isBlank cs).bind fun rest =>
      (after? word rest).bind fun rest => blanks (clauseText fun text => next (some text)) rest
  present.or (next none cs)

/-- The brace at the end of a header. -/
def endsHeader (cs : List Char) : Bool :=
  match cs.dropWhile Text.isBlank with
  | c :: rest => c.toNat == 0x7b && rest.all Text.isBlank
  | [] => false

/-- The keywords of headers. -/
def kinds : List (String × TypeKind) :=
  [("class", .classType), ("interface", .interfaceType), ("enum", .enumType),
    ("@interface", .annotationType)]

/-- A header from its keyword on. -/
def afterModifiers (modifiers : List (List Char)) (cs : List Char) : Option Header :=
  kinds.findSome? fun (word, kind) => do
    let rest ← after? word cs
    let rest ← afterRun? Text.isBlank rest
    let name := rest.takeWhile isNameChar
    if name.isEmpty then none
    else
      clause "extends" (fun extends? =>
        clause "implements" fun implements? =>
          clause "permits" fun _ rest =>
            if endsHeader rest then some { modifiers, kind, name, extends?, implements? }
            else none)
        (rest.dropWhile isNameChar)

/-- A header whose modifiers so far are given. The fewest words are taken for modifiers. At most
`bound` more are read. -/
def headerFrom (modifiers : List (List Char)) : Nat → List Char → Option Header
  | 0, cs => afterModifiers modifiers cs
  | bound + 1, cs =>
    match afterModifiers modifiers cs with
    | some h => some h
    | none =>
      let word := cs.takeWhile isModifierChar
      if word.isEmpty then none
      else
        (afterRun? Text.isBlank (cs.dropWhile isModifierChar)).bind fun rest =>
          headerFrom (modifiers ++ [word]) bound rest

/-- The header on a line. -/
def header? (line : List Char) : Option Header := headerFrom [] line.length line

end JavaAtlas.Listing
