/-! Decoding character by character. -/

namespace JavaAtlas

/-- Why bytes are no text. -/
inductive DecodeError where
  /-- The bytes from this position on stand for no character. -/
  | invalid (start : Nat)
  /-- Units of this many bits come without a mark of their byte order. -/
  | unmarked (bits : Nat)
  /-- The encoding stands for no text at all. -/
  | undefined
deriving Repr, BEq, DecidableEq

namespace Encoding

/-- The first character of some bytes and the number of bytes it takes. -/
abbrev Step := List UInt8 → Option (Char × Nat)

/-- The character of a single byte. -/
def byteStep (char? : Nat → Option Char) : Step
  | [] => none
  | b :: _ => (char? b.toNat).map fun c => (c, 1)

/-- Reads character after character. Each takes a byte at least, so the bytes bound their
number. -/
def stepAll (step : Step) : Nat → Nat → List UInt8 → Except DecodeError (List Char)
  | _, _, [] => .ok []
  | 0, position, _ :: _ => .error (.invalid position)
  | bound + 1, position, bytes =>
    match step bytes with
    | none => .error (.invalid position)
    | some (c, taken) =>
      (stepAll step bound (position + taken) (bytes.drop taken)).map (c :: ·)

/-- The characters of some bytes that start at a position. -/
def steps (step : Step) (position : Nat) (bytes : List UInt8) : Except DecodeError (List Char) :=
  stepAll step bytes.length position bytes

def asciiChar? (n : Nat) : Option Char := if n < 0x80 then some (Char.ofNat n) else none

end Encoding

end JavaAtlas
