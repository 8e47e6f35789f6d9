import JavaAtlas.Toml.Text
import JavaAtlas.Value

/-! Numbers, dates and times of TOML documents. -/

namespace JavaAtlas.Toml

/-- The digits of a run in which single low lines may stand between digits, and what follows. -/
def digitRun (isDigit : Char → Bool) : List Char → List Char × List Char
  | '_' :: c :: cs =>
    if isDigit c then
      let (digits, rest) := digitRun isDigit cs
      (c :: digits, rest)
    else ([], '_' :: c :: cs)
  | c :: cs =>
    if isDigit c then
      let (digits, rest) := digitRun isDigit cs
      (c :: digits, rest)
    else ([], c :: cs)
  | [] => ([], [])

/-- One digit and the run after it. -/
def digits1 (isDigit : Char → Bool) : Reader (List Char) := fun cs =>
  match cs with
  | c :: rest =>
    if isDigit c then
      let (more, rest) := digitRun isDigit rest
      some (c :: more, rest)
    else none
  | [] => none

/-- The bases with a mark of their own, and their digits. -/
def bases : List (Char × Nat × (Char → Bool)) :=
  [('x', 16, isHexDigit), ('b', 2, fun c => c == '0' || c == '1'),
   ('o', 8, fun c => '0' ≤ c && c ≤ '7')]

/-- A whole number in a base with a mark. -/
def markedNumber : Reader Value := do
  let '0' :: mark :: rest ← get | failure
  let some (base, isDigit) := bases.lookup mark | failure
  set rest
  return .int (valueOf base (← digits1 isDigit))

/-- A sign: whether it is a minus. -/
def sign : Reader Bool := do
  if ← try1 ['-'] then return true
  let _ ← try1 ['+']
  return false

/-- The fraction behind a point, if there is one. -/
def fraction : Reader (Option (List Char)) := fun cs =>
  match cs with
  | '.' :: rest =>
    match digits1 Char.isDigit rest with
    | some (digits, rest) => some (some digits, rest)
    | none => some (none, cs)
  | _ => some (none, cs)

/-- The exponent, if there is one. -/
def exponent : Reader (Option Int) := fun cs =>
  match cs with
  | c :: rest =>
    let power : Reader Int := do
      let negative ← sign
      let n : Int := valueOf 10 (← digits1 Char.isDigit)
      return if negative then -n else n
    if c == 'e' || c == 'E' then
      match power rest with
      | some (n, rest) => some (some n, rest)
      | none => some (none, cs)
    else some (none, cs)
  | [] => some (none, cs)

/-- A decimal number: whole if it has neither fraction nor exponent. A zero in front stands
alone. -/
def decimalNumber : Reader Value := do
  let negative ← sign
  let whole ← if ← try1 ['0'] then pure ['0'] else digits1 Char.isDigit
  let part ← fraction
  let power ← exponent
  if part.isNone && power.isNone then
    let n : Int := valueOf 10 whole
    return .int (if negative then -n else n)
  else
    let part := part.getD []
    return .float
      (Decimal.nearestBits negative (valueOf 10 (whole ++ part)) (power.getD 0 - part.length))

/-- The first of two readers that does not fail. -/
def either {α : Type} (r s : Reader α) : Reader α := fun cs => (r cs).or (s cs)

def number : Reader Value := either markedNumber decimalNumber

/-- The numbers that have names: infinity and the one that is no number. -/
def namedNumber : Reader Value := do
  let negative ← sign
  let top : UInt64 := if negative then 0x8000000000000000 else 0
  if ← try1 "inf".toList then return .float (0x7ff0000000000000 ||| top)
  else if ← try1 "nan".toList then return .float (0x7ff8000000000000 ||| top)
  else failure

/-- A number of so many digits in a range. -/
def counted (count least greatest : Nat) : Reader Nat := do
  let digits := (← get).take count
  if digits.length != count || !digits.all Char.isDigit then failure
  let n := valueOf 10 digits
  if n < least || greatest < n then failure
  modify (List.drop count)
  return n

/-- The fraction of a second in millionths, to six digits. -/
def micros : Reader Nat := fun cs =>
  match cs with
  | '.' :: rest =>
    let digits := rest.takeWhile Char.isDigit
    if digits.isEmpty then some (0, cs)
    else
      let six := digits.take 6
      some (valueOf 10 six * Nat.pow 10 (6 - six.length), rest.dropWhile Char.isDigit)
  | _ => some (0, cs)

def time : Reader TimeOfDay := do
  let hour ← counted 2 0 23
  expect [':']
  let minute ← counted 2 0 59
  expect [':']
  let second ← counted 2 0 59
  let micros ← micros
  return { hour, minute, second, micros }

/-- A day as it is written; the month may have fewer days. -/
def date : Reader Date := do
  let year ← counted 4 0 9999
  expect ['-']
  let month ← counted 2 1 12
  expect ['-']
  let day ← counted 2 1 31
  return { year, month, day }

/-- Reads if possible and takes nothing otherwise. -/
def optional {α : Type} (r : Reader α) : Reader (Option α) := fun cs =>
  match r cs with
  | some (a, rest) => some (some a, rest)
  | none => some (none, cs)

/-- An offset from UTC in minutes. -/
def offset : Reader Int := do
  if ← try1 ['Z'] then return 0
  if ← try1 ['z'] then return 0
  let negative ← if ← try1 ['-'] then pure true else do expect ['+']; pure false
  let hours ← counted 2 0 23
  expect [':']
  let minutes ← counted 2 0 59
  let n : Int := hours * 60 + minutes
  return if negative then -n else n

def isLeapYear (year : Nat) : Bool := year % 4 == 0 && (year % 100 != 0 || year % 400 == 0)

def daysOf (year month : Nat) : Nat :=
  if month == 2 then if isLeapYear year then 29 else 28
  else if [4, 6, 9, 11].contains month then 30
  else 31

/-- The day is in the calendar, which starts with year one. -/
def exists? (d : Date) : Bool := 1 ≤ d.year && d.day ≤ daysOf d.year d.month

/-- The time behind a day and the mark between them. -/
def timeAfterDay : Reader (TimeOfDay × Option Int) := do
  let c :: rest ← get | failure
  if !(c == 'T' || c == 't' || c == ' ') then failure
  set rest
  let t ← time
  return (t, ← optional offset)

/-- A date, a time or both. A day that is not in the calendar is refused at once. -/
def moment? : Reader (Option Moment) := do
  match ← optional date with
  | some d =>
    let rest ← optional timeAfterDay
    if !exists? d then failure
    match rest with
    | some (t, offset) => return some (.dateTime d t offset)
    | none => return some (.date d)
  | none => return (← optional time).map .time

end JavaAtlas.Toml
