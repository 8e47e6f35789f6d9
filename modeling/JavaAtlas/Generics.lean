import JavaAtlas.Text.Blank

/-! Type arguments are left out of type names. -/

namespace JavaAtlas.Generics

/-- The characters outside all argument lists; `depth` lists are open. A closing mark without an
opening one is dropped and changes nothing. -/
def outsideFrom (depth : Nat) : List Char → List Char
  | [] => []
  | c :: cs =>
    if c == '<' then outsideFrom (depth + 1) cs
    else if c == '>' then outsideFrom (depth - 1) cs
    else if depth == 0 then c :: outsideFrom depth cs
    else outsideFrom depth cs

/-- A line of text without its type arguments. -/
def outside (cs : List Char) : List Char := outsideFrom 0 cs

/-- The characters outside all argument lists that are no blanks. A closing mark without an opening
one counts as a list below depth zero, where nothing is kept. -/
def compactFrom (depth : Int) : List Char → List Char
  | [] => []
  | c :: cs =>
    if c == '<' then compactFrom (depth + 1) cs
    else if c == '>' then compactFrom (depth - 1) cs
    else if depth == 0 && !Text.isBlank c then c :: compactFrom depth cs
    else compactFrom depth cs

/-- The text of a type without its type arguments and blanks. -/
def compact (cs : List Char) : List Char := compactFrom 0 cs

end JavaAtlas.Generics
