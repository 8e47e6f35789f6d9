import JavaAtlas.Encoding.Utf

/-! UTF-7: characters of ASCII for themselves, and sections that spell units of UTF-16 in digits of
base 64. Nothing keeps these units from being halves of surrogate pairs without their other halves. -/

namespace JavaAtlas.Encoding

/-- What bytes stand for: a character, or half of a surrogate pair without the other half. -/
inductive Point where
  | char (c : Char)
  | half (unit : Nat)
deriving Repr, BEq, DecidableEq

namespace Point

/-- Half of a pair has no character of its own, and stands as the replacement character. -/
def shown : Point → Char
  | .char c => c
  | .half _ => '\ufffd'

def half? : Point → Option Nat
  | .char _ => none
  | .half unit => some unit

/-- A unit of UTF-16 by itself. -/
def ofUnit (unit : Nat) : Point := (charOf? unit).elim (.half unit) .char

end Point

/-- A section that is being read. -/
structure Section where
  start : Nat
  /-- It has no digit yet. -/
  fresh : Bool := true
  /-- The number of bits that belong to no unit yet, and their value. -/
  bits : Nat := 0
  value : Nat := 0
  /-- The first half of a character that waits for the second. -/
  half : Option Nat := none

/-- The digit of a byte in base 64. -/
def digit64? (byte : UInt8) : Option Nat :=
  let c := Char.ofNat byte.toNat
  if c.isUpper then some (c.toNat - 'A'.toNat)
  else if c.isLower then some (c.toNat - 'a'.toNat + 26)
  else if c.isDigit then some (c.toNat - '0'.toNat + 52)
  else if c == '+' then some 62
  else if c == '/' then some 63
  else none

namespace Section

/-- The bits left over make up no unit, and they are too many or more than padding. -/
def hasRest (s : Section) : Bool := 6 ≤ s.bits || s.value != 0

/-- A section with a unit that does not complete a pair. -/
def startUnit (s : Section) (unit : Nat) : Section × List Point :=
  if isHighHalf unit then ({ s with half := some unit }, [])
  else ({ s with half := none }, [.ofUnit unit])

/-- A section with another unit. -/
def pushUnit (s : Section) (unit : Nat) : Section × List Point :=
  match s.half with
  | none => s.startUnit unit
  | some high =>
    if isLowHalf unit then ({ s with half := none }, [.char (joinHalves high unit)])
    else
      let (next, points) := s.startUnit unit
      (next, .half high :: points)

/-- A section with another digit. -/
def push (s : Section) (digit : Nat) : Section × List Point :=
  let value := s.value * 64 + digit
  let bits := s.bits + 6
  if bits < 16 then ({ s with fresh := false, bits, value }, [])
  else
    let unit := value >>> (bits - 16)
    let rest := value - unit <<< (bits - 16)
    { s with fresh := false, bits := bits - 16, value := rest }.pushUnit unit

end Section

/-- Reads a byte at a position: the section behind it and the points that it completes. -/
def utf7Byte (section? : Option Section) (position : Nat) (byte : UInt8) :
    Except DecodeError (Option Section × List Point) :=
  let c := Char.ofNat byte.toNat
  match section?, digit64? byte with
  | none, _ =>
    if c == '+' then .ok (some { start := position }, [])
    else if 0x80 ≤ byte.toNat then .error (.invalid position)
    else .ok (none, [.char c])
  | some s, some digit =>
    let (next, points) := s.push digit
    .ok (some next, points)
  | some s, none =>
    if s.fresh then if c == '-' then .ok (none, [.char '+']) else .error (.invalid s.start)
    else if s.hasRest then .error (.invalid s.start)
    else if 0x80 ≤ byte.toNat then .error (.invalid position)
    else .ok (none, s.half.toList.map .half ++ if c == '-' then [] else [.char c])

/-- The points of the bytes from a position on. -/
def utf7From (section? : Option Section) (position : Nat) :
    List UInt8 → Except DecodeError (List Point)
  | [] =>
    match section? with
    | some s => if s.hasRest || s.half.isSome then .error (.invalid s.start) else .ok []
    | none => .ok []
  | byte :: bytes =>
    match utf7Byte section? position byte with
    | .error e => .error e
    | .ok (next, points) => (utf7From next (position + 1) bytes).map (points ++ ·)

def utf7Points (bytes : List UInt8) : Except DecodeError (List Point) := utf7From none 0 bytes

end JavaAtlas.Encoding
