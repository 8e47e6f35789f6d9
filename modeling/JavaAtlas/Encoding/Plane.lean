/-! Planes of characters: the characters of a set that two bytes choose from. -/

namespace JavaAtlas.Encoding

/-- A plane of cells. Each block gives the characters from a cell on, with a blank for a cell that
is empty, and so are the cells between blocks. -/
structure Plane where
  blocks : List (Nat × List String)

namespace Plane

/-- Stands for a cell without a character. -/
def empty : Char := ' '

/-- Cells with empty ones behind them, up to a number of cells. -/
def padded (cells : Array Char) (size : Nat) : Array Char :=
  cells ++ Array.replicate (size - cells.size) empty

/-- The cells of the blocks, which come in order. -/
def cells (p : Plane) : Array Char :=
  p.blocks.foldl (fun cells (start, pieces) =>
    pieces.foldl (fun cells piece => cells ++ piece.toList.toArray) (padded cells start)) #[]

/-- The character in a cell. -/
def charAt? (cells : Array Char) (cell : Nat) : Option Char :=
  cells[cell]?.filter (· != empty)

/-- The characters from one code point to another that are in no cell, in order. -/
def absent (cells : Array Char) (first last : Nat) : Array Char :=
  let unmarked := Array.replicate (last + 1 - first) false
  let present := cells.foldl (fun marks c =>
    if c.toNat < first then marks else marks.setIfInBounds (c.toNat - first) true) unmarked
  ((List.range (last + 1 - first)).filter fun k => present[k]? == some false).toArray.map fun k =>
    Char.ofNat (first + k)

end Plane

end JavaAtlas.Encoding
