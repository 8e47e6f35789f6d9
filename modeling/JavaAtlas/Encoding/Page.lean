/-! Code pages: encodings that give every character one byte. -/

namespace JavaAtlas.Encoding

/-- A code page. The bytes below `start` are their own code points, and the rows hold the
characters of the others in order. -/
structure Page where
  name : String
  aliases : List String := []
  start : Nat := 0x80
  rows : List String
deriving Repr, BEq, DecidableEq

namespace Page

/-- Stands in a row for a byte without a character. -/
def missing : Char := '\ufffd'

/-- The characters of the bytes from `start` on. -/
def table (p : Page) : Array Char := (String.join p.rows).toList.toArray

/-- The character of a byte in a table that starts at a byte. -/
def charAt? (start : Nat) (table : Array Char) (byte : Nat) : Option Char :=
  if byte < start then some (Char.ofNat byte)
  else
    match table[byte - start]? with
    | some c => if c == missing then none else some c
    | none => none

end Page

end JavaAtlas.Encoding
