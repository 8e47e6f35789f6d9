import JavaAtlas.Text.Printable

/-! Quoted text, as messages show a text they talk about. It stands in apostrophes, or in quotation
marks where it holds an apostrophe and no quotation mark; what cannot be printed is escaped. -/

namespace JavaAtlas.Text

def apostrophe : Char := Char.ofNat 0x27

def quotationMark : Char := Char.ofNat 0x22

/-- The number in lower-case hexadecimal digits, with zeros in front up to the width. -/
def hexDigits (width n : Nat) : List Char :=
  let digits := Nat.toDigits 16 n
  List.replicate (width - digits.length) '0' ++ digits

/-- The escape of a character that is not printed as it is: two, four or eight hexadecimal digits,
whichever is the first to have room for it. -/
def escapeCode (c : Char) : List Char :=
  if c.toNat < 0x100 then '\\' :: 'x' :: hexDigits 2 c.toNat
  else if c.toNat < 0x10000 then '\\' :: 'u' :: hexDigits 4 c.toNat
  else '\\' :: 'U' :: hexDigits 8 c.toNat

/-- One character between the marks `mark`. -/
def quoteChar (mark c : Char) : List Char :=
  if c == mark || c == '\\' then ['\\', c]
  else if c == '\n' then ['\\', 'n']
  else if c == '\r' then ['\\', 'r']
  else if c == '\t' then ['\\', 't']
  else if isPrintable c then [c]
  else escapeCode c

/-- The mark around a text. -/
def quoteMark (cs : List Char) : Char :=
  if cs.contains apostrophe && !cs.contains quotationMark then quotationMark else apostrophe

/-- A text in quotes. -/
def quoted (s : String) : String :=
  let cs := s.toList
  let mark := quoteMark cs
  String.ofList (mark :: cs.flatMap (quoteChar mark) ++ [mark])

end JavaAtlas.Text
