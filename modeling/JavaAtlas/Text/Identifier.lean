import JavaAtlas.Text.Category

/-! The characters of identifiers in Unicode 15.1. They follow the general categories, with a few
characters more and a few less. -/

namespace JavaAtlas.Text

namespace Identifier

/-- Letters that are younger than the tables of the categories. -/
def newLetter : List (Nat × Nat) :=
  [(0x1123f, 0x11240), (0x11f02, 0x11f02), (0x11f04, 0x11f10), (0x11f12, 0x11f33),
   (0x1342f, 0x1342f), (0x13441, 0x13446), (0x1b132, 0x1b132), (0x1b155, 0x1b155),
   (0x1df25, 0x1df2a), (0x1e030, 0x1e06d), (0x1e4d0, 0x1e4eb), (0x2ebf0, 0x2ee5d),
   (0x31350, 0x323af)]

/-- Digits and marks that are younger than the tables of the categories. -/
def newPart : List (Nat × Nat) :=
  [(0xcf3, 0xcf3), (0xece, 0xece), (0x10efd, 0x10eff), (0x11241, 0x11241), (0x11f00, 0x11f01),
   (0x11f03, 0x11f03), (0x11f34, 0x11f3a), (0x11f3e, 0x11f42), (0x11f50, 0x11f59),
   (0x13440, 0x13440), (0x13447, 0x13455), (0x1e08f, 0x1e08f), (0x1e4ec, 0x1e4f9)]

/-- Characters of other categories that count as letters. -/
def otherStart : List (Nat × Nat) := [(0x1885, 0x1886), (0x2118, 0x2118), (0x212e, 0x212e)]

/-- Characters of other categories that count as digits or marks. -/
def otherPart : List (Nat × Nat) :=
  [(0xb7, 0xb7), (0x387, 0x387), (0x1369, 0x1371), (0x19da, 0x19da), (0x200c, 0x200d),
   (0x30fb, 0x30fb), (0xff65, 0xff65)]

/-- Letters that no identifier holds, because normal forms take them apart. -/
def unstable : List (Nat × Nat) :=
  [(0x37a, 0x37a), (0x2e2f, 0x2e2f), (0xfc5e, 0xfc63), (0xfdfa, 0xfdfb), (0xfe70, 0xfe70),
   (0xfe72, 0xfe72), (0xfe74, 0xfe74), (0xfe76, 0xfe76), (0xfe78, 0xfe78), (0xfe7a, 0xfe7a),
   (0xfe7c, 0xfe7c), (0xfe7e, 0xfe7e)]

/-- Letters that no identifier starts with. -/
def unstableStart : List (Nat × Nat) := [(0xe33, 0xe33), (0xeb3, 0xeb3), (0xff9e, 0xff9f)]

/-- The code point is in one of the tables. -/
def inSome (tables : List (List (Nat × Nat))) (n : Nat) : Bool :=
  tables.any fun table => inRanges table n

end Identifier

open Identifier Category in
/-- A character that an identifier may start with. -/
def isIdentifierStart (c : Char) : Bool :=
  if c.toNat < 0x80 then c.isAlpha
  else
    inSome [letter, letterNumber, newLetter, otherStart] c.toNat &&
      !inSome [unstable, unstableStart] c.toNat

open Identifier Category in
/-- A character that an identifier may go on with. -/
def isIdentifierPart (c : Char) : Bool :=
  if c.toNat < 0x80 then c.isAlphanum || c == '_'
  else
    inSome [letter, letterNumber, newLetter, otherStart, decimalDigit, mark, connector, newPart,
      otherPart] c.toNat && !inRanges unstable c.toNat

end JavaAtlas.Text
