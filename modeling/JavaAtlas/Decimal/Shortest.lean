/-! The shortest decimal that reads back as a given double, and the double nearest to a decimal. A
finite double is `mantissa * 2 ^ exponent`; all comparisons are between natural numbers. -/

namespace JavaAtlas.Decimal

/-- A positive number `0.d₁d₂…dₙ * 10 ^ point`. -/
structure Digits where
  digits : List Nat
  point : Int
deriving Repr, DecidableEq

/-- A positive fraction. -/
structure Ratio where
  num : Nat
  den : Nat
deriving Repr, DecidableEq

/-- The fraction times a power of ten. -/
def Ratio.scale (r : Ratio) (power : Int) : Ratio :=
  if 0 ≤ power then ⟨r.num * Nat.pow 10 power.toNat, r.den⟩
  else ⟨r.num, r.den * Nat.pow 10 (-power).toNat⟩

/-- The decimal digits of a number, most significant first. -/
def digitsOf (n : Nat) : List Nat :=
  (Nat.toDigits 10 n).map fun c => c.toNat - '0'.toNat

/-- The power of ten just above the fraction: `10 ^ (k - 1) ≤ r < 10 ^ k`. Doubles stay above
`10 ^ -400`. -/
def Ratio.magnitude (r : Ratio) : Int :=
  if r.den ≤ r.num then (digitsOf (r.num / r.den)).length
  else
    match (List.range 400).find? fun j => r.den ≤ r.num * Nat.pow 10 j with
    | some j => 1 - (j : Int)
    | none => 0

/-- What rounds to one double: the double itself and the two ends of the interval, all over one
denominator. The ends belong to it when `closed`. -/
structure Interval where
  value : Nat
  low : Nat
  high : Nat
  den : Nat
  closed : Bool
deriving Repr

/-- The numbers that round to `mantissa * 2 ^ exponent`. Below a power of two the doubles lie twice
as dense. -/
def Interval.ofDouble (mantissa : Nat) (exponent : Int) (powerOfTwo : Bool) : Interval :=
  let shift := exponent - 2
  let up := if 0 ≤ shift then Nat.pow 2 shift.toNat else 1
  let den := if 0 ≤ shift then 1 else Nat.pow 2 (-shift).toNat
  { value := 4 * mantissa * up
    low := (4 * mantissa - if powerOfTwo then 1 else 2) * up
    high := (4 * mantissa + 2) * up
    den
    closed := mantissa % 2 == 0 }

/-- The number `count * 10 ^ power` lies in the interval. -/
def Interval.holds (i : Interval) (count : Nat) (power : Int) : Bool :=
  let up := if 0 ≤ power then Nat.pow 10 power.toNat else 1
  let down := if 0 ≤ power then 1 else Nat.pow 10 (-power).toNat
  let n := count * up * i.den
  let low := i.low * down
  let high := i.high * down
  if i.closed then low ≤ n && n ≤ high else low < n && n < high

/-- The multiple of `10 ^ power` in the interval that is nearest to its value. Of two that are as
near, the even one. -/
def Interval.nearest? (i : Interval) (power : Int) : Option Nat :=
  let r := (Ratio.mk i.value i.den).scale (-power)
  let below := r.num / r.den
  let above := below + 1
  match i.holds below power, i.holds above power with
  | true, true =>
    let rest := 2 * (r.num % r.den)
    if rest < r.den || (rest == r.den && below % 2 == 0) then some below else some above
  | true, false => some below
  | false, true => some above
  | false, false => none

/-- The fewest digits that read back as the double, seventeen at most. -/
def Interval.shortest (i : Interval) : Digits :=
  let magnitude := (Ratio.mk i.value i.den).magnitude
  let attempt (n : Nat) : Option Digits :=
    (i.nearest? (magnitude - (n + 1 : Nat))).map fun count =>
      let digits := digitsOf count
      ⟨digits, magnitude - (n + 1 : Nat) + digits.length⟩
  ((List.range 17).findSome? attempt).getD ⟨[0], 0⟩

/-- The digits without zeros at the end. -/
def Digits.trimmed (d : Digits) : Digits :=
  { d with digits := (d.digits.reverse.dropWhile (· == 0)).reverse }

/-- How a double is written out in decimal. -/
structure Format where
  /-- The decimal point moves into the digits while `0.d₁d₂…` stands at a power of ten in this
  range; otherwise there is an exponent. -/
  leastPoint : Int
  greatestPoint : Int
  /-- The least number of digits of an exponent. -/
  exponentWidth : Nat
deriving Repr

/-- Positional from `0.0001` up to below `10 ^ 16`, with at least one digit on each side of the
point; otherwise an exponent with a sign and two digits. -/
def Format.plain : Format := { leastPoint := -3, greatestPoint := 16, exponentWidth := 2 }

def showDigits (ds : List Nat) : String :=
  String.ofList (ds.map fun d => Char.ofNat (d + '0'.toNat))

/-- The number in the given format. -/
def Digits.render (f : Format) (d : Digits) : String :=
  let n : Int := d.digits.length
  if f.leastPoint ≤ d.point && d.point ≤ f.greatestPoint then
    if d.point ≤ 0 then "0." ++ showDigits (List.replicate (-d.point).toNat 0 ++ d.digits)
    else if n ≤ d.point then
      showDigits (d.digits ++ List.replicate (d.point - n).toNat 0) ++ ".0"
    else showDigits (d.digits.take d.point.toNat) ++ "." ++ showDigits (d.digits.drop d.point.toNat)
  else
    let exponent := d.point - 1
    let digits := digitsOf exponent.natAbs
    let padded := List.replicate (f.exponentWidth - digits.length) 0 ++ digits
    let fraction := if d.digits.length ≤ 1 then "" else "." ++ showDigits (d.digits.drop 1)
    showDigits (d.digits.take 1) ++ fraction ++ "e" ++ (if exponent < 0 then "-" else "+") ++
      showDigits padded

/-- The text of the double with the given bits. -/
def renderBits (f : Format) (bits : UInt64) : String :=
  let sign := if bits >>> 63 == 1 then "-" else ""
  let field := (bits >>> 52 &&& 0x7ff).toNat
  let fraction := (bits &&& 0xfffffffffffff).toNat
  if field == 2047 then if fraction == 0 then sign ++ "inf" else "nan"
  else if field == 0 && fraction == 0 then sign ++ "0.0"
  else
    let mantissa := if field == 0 then fraction else fraction + 0x10000000000000
    let exponent : Int := (if field == 0 then 1 else field : Nat) - 1075
    let i := Interval.ofDouble mantissa exponent (fraction == 0 && 1 < field)
    sign ++ (i.shortest.trimmed.render f)

/-- The bits of the double nearest to `±count * 10 ^ power`. Far outside the range of doubles the
answer is zero or infinity at once. -/
def nearestBits (negative : Bool) (count : Nat) (power : Int) : UInt64 :=
  let top : Int := (digitsOf count).length + power
  let magnitude : Float :=
    if count == 0 || top < -400 then 0.0
    else if 400 < top then 1.0 / 0.0
    else Float.ofScientific count (power < 0) power.natAbs
  (if negative then -magnitude else magnitude).toBits

end JavaAtlas.Decimal
