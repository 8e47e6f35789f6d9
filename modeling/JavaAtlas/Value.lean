import JavaAtlas.Decimal.Shortest
import JavaAtlas.Text.Quoted

/-! The values that settings and saved payloads are made of. A setting keeps whatever value it is
given, so the type holds everything a configuration file can say. -/

namespace JavaAtlas

/-- A day of the calendar. -/
structure Date where
  year : Nat
  month : Nat
  day : Nat
deriving Repr, DecidableEq

/-- A time of day. -/
structure TimeOfDay where
  hour : Nat
  minute : Nat
  second : Nat
  micros : Nat := 0
deriving Repr, DecidableEq

/-- A date, a time or both; `offset` counts minutes east of UTC. -/
inductive Moment where
  | date (day : Date)
  | time (time : TimeOfDay)
  | dateTime (day : Date) (time : TimeOfDay) (offset : Option Int)
deriving Repr, DecidableEq

/-- A configuration value. A float is kept as the bits of the double. -/
inductive Value where
  | null
  | bool (b : Bool)
  | int (n : Int)
  | float (bits : UInt64)
  | text (s : String)
  | moment (m : Moment)
  | list (items : List Value)
  | table (fields : List (String × Value))
deriving Repr, BEq, Inhabited

/-- The number with zeros in front up to the width. -/
def padded (width n : Nat) : String :=
  let digits := toString n
  String.ofList (List.replicate (width - digits.length) '0') ++ digits

def Date.iso (d : Date) : String := s!"{padded 4 d.year}-{padded 2 d.month}-{padded 2 d.day}"

def TimeOfDay.iso (t : TimeOfDay) : String :=
  let fraction := if t.micros == 0 then "" else "." ++ padded 6 t.micros
  s!"{padded 2 t.hour}:{padded 2 t.minute}:{padded 2 t.second}{fraction}"

/-- An offset from UTC, such as `+02:00`. -/
def offsetIso (offset : Int) : String :=
  let n := offset.natAbs
  let sign := if offset < 0 then "-" else "+"
  s!"{sign}{padded 2 (n / 60)}:{padded 2 (n % 60)}"

/-- The moment in the notation of ISO 8601. -/
def Moment.iso : Moment → String
  | .date d => d.iso
  | .time t => t.iso
  | .dateTime d t offset => d.iso ++ "T" ++ t.iso ++ (offset.map offsetIso).getD ""

/-- The duration of an offset, as whole days and the seconds left over. -/
def offsetDisplay (offset : Int) : String :=
  let seconds := offset * 60
  let days := seconds.fdiv 86400
  let rest := seconds.fmod 86400
  let parts := (if days == 0 then [] else [s!"days={days}"]) ++
    (if rest == 0 then [] else [s!"seconds={rest}"])
  if parts.isEmpty then "datetime.timezone.utc"
  else "datetime.timezone(datetime.timedelta(" ++ ", ".intercalate parts ++ "))"

/-- The parts of a time of day that a message lists: seconds and their fraction only as far as they
are not zero. -/
def TimeOfDay.parts (t : TimeOfDay) : List Nat :=
  [t.hour, t.minute] ++
    if t.micros != 0 then [t.second, t.micros] else if t.second != 0 then [t.second] else []

/-- The moment as messages show it. -/
def Moment.display : Moment → String
  | .date d => s!"datetime.date({d.year}, {d.month}, {d.day})"
  | .time t => "datetime.time(" ++ ", ".intercalate (t.parts.map toString) ++ ")"
  | .dateTime d t offset =>
    let parts := ([d.year, d.month, d.day] ++ t.parts).map toString ++
      (offset.map fun o => "tzinfo=" ++ offsetDisplay o).toList
    "datetime.datetime(" ++ ", ".intercalate parts ++ ")"

namespace Value

mutual

/-- The value as messages show it. -/
def display : Value → String
  | .null => "None"
  | .bool true => "True"
  | .bool false => "False"
  | .int n => toString n
  | .float bits => Decimal.renderBits .plain bits
  | .text s => Text.quoted s
  | .moment m => m.display
  | .list items => "[" ++ ", ".intercalate (displayAll items) ++ "]"
  | .table fields => "\x7b" ++ ", ".intercalate (displayFields fields) ++ "\x7d"

def displayAll : List Value → List String
  | [] => []
  | v :: vs => v.display :: displayAll vs

def displayFields : List (String × Value) → List String
  | [] => []
  | (key, v) :: fields => (Text.quoted key ++ ": " ++ v.display) :: displayFields fields

end

/-- The word for the kind of a value in messages about a value of the wrong kind. -/
def kindWord : Value → String
  | .null => "NoneType"
  | .bool _ => "bool"
  | .int _ => "int"
  | .float _ => "float"
  | .text _ => "str"
  | .moment (.date _) => "datetime.date"
  | .moment (.time _) => "datetime.time"
  | .moment (.dateTime ..) => "datetime.datetime"
  | .list _ => "list"
  | .table _ => "dict"

/-- What a switch reads from a value: nothing, zero and whatever is empty are off. -/
def isOn : Value → Bool
  | .null => false
  | .bool b => b
  | .int n => n != 0
  | .float bits => bits <<< 1 != 0
  | .text s => s != ""
  | .moment _ => true
  | .list items => !items.isEmpty
  | .table fields => !fields.isEmpty

/-- The value is the number one. A true switch counts as one. -/
def isOne : Value → Bool
  | .bool b => b
  | .int n => n == 1
  | .float bits => bits == 0x3ff0000000000000
  | _ => false

/-- The values a value is made of, as a list of settings reads them: the items of a list, the
characters of a text, the keys of a table. -/
def members? : Value → Option (List Value)
  | .list items => some items
  | .text s => some (s.toList.map fun c => .text (String.ofList [c]))
  | .table fields => some (fields.map fun (key, _) => .text key)
  | _ => none

/-- The field of a table. -/
def field? (key : String) : List (String × Value) → Option Value
  | [] => none
  | (k, v) :: fields => if k == key then some v else field? key fields

end Value

end JavaAtlas
