import JavaAtlas.Encoding.Step

/-! Transformation formats: UTF-8, UTF-16 and UTF-32. -/

namespace JavaAtlas

/-- The order of the bytes in a unit of several bytes. -/
inductive ByteOrder where
  | little
  | big
deriving Repr, BEq, DecidableEq

namespace Encoding

/-- The character of a code point. -/
def charOf? (n : Nat) : Option Char := if n.isValidChar then some (Char.ofNat n) else none

/-- The number of some bytes, the most significant first. -/
def bigNumber (bytes : List UInt8) : Nat := bytes.foldl (fun n b => n * 256 + b.toNat) 0

def number (order : ByteOrder) (bytes : List UInt8) : Nat :=
  match order with
  | .big => bigNumber bytes
  | .little => bigNumber bytes.reverse

/-- The value of the bytes that continue a character of several bytes. -/
def continued (value : Nat) : List UInt8 → Option Nat
  | [] => some value
  | b :: bytes =>
    if 0x80 ≤ b.toNat && b.toNat < 0xc0 then continued (value * 64 + (b.toNat - 0x80)) bytes
    else none

/-- A character of UTF-8 that takes `length` bytes. It has to be one that takes no fewer. -/
def utf8Long (length low lead : Nat) (bytes : List UInt8) : Option (Char × Nat) := do
  let rest := bytes.take (length - 1)
  if rest.length < length - 1 then none
  else
    let n ← continued lead rest
    let c ← charOf? n
    if n < low then none else some (c, length)

def utf8Step : Step
  | [] => none
  | b :: bytes =>
    let n := b.toNat
    if n < 0x80 then some (Char.ofNat n, 1)
    else if 0xc0 ≤ n && n < 0xe0 then utf8Long 2 0x80 (n - 0xc0) bytes
    else if 0xe0 ≤ n && n < 0xf0 then utf8Long 3 0x800 (n - 0xe0) bytes
    else if 0xf0 ≤ n && n < 0xf8 then utf8Long 4 0x10000 (n - 0xf0) bytes
    else none

def isHighHalf (n : Nat) : Bool := 0xd800 ≤ n && n < 0xdc00

def isLowHalf (n : Nat) : Bool := 0xdc00 ≤ n && n < 0xe000

/-- The character of two halves. -/
def joinHalves (high low : Nat) : Char :=
  Char.ofNat (0x10000 + (high - 0xd800) * 0x400 + (low - 0xdc00))

/-- The number of the first `size` bytes. -/
def unit? (size : Nat) (order : ByteOrder) (bytes : List UInt8) : Option Nat :=
  let unit := bytes.take size
  if unit.length < size then none else some (number order unit)

/-- A character of UTF-16: one unit, or two halves. -/
def utf16Step (order : ByteOrder) : Step := fun bytes => do
  let first ← unit? 2 order bytes
  if isHighHalf first then
    let second ← unit? 2 order (bytes.drop 2)
    if isLowHalf second then some (joinHalves first second, 4) else none
  else (charOf? first).map fun c => (c, 2)

def utf32Step (order : ByteOrder) : Step := fun bytes => do
  let c ← (unit? 4 order bytes).bind charOf?
  some (c, 4)

end Encoding

end JavaAtlas
