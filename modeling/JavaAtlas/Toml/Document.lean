import JavaAtlas.Toml.Scalar

/-! TOML documents. A document is a table; statements put values into it, and headers open tables
and lists of tables in it. What was written out once may not be opened again. -/

namespace JavaAtlas.Toml

abbrev Table := List (String × Value)

abbrev Key := List String

/-- The table with another value under a key, at its old place or at the end. -/
def setField (key : String) (v : Value) : Table → Table
  | [] => [(key, v)]
  | (k, old) :: fields => if k == key then (k, v) :: fields else (k, old) :: setField key v fields

/-- Changes the table under a key, which is made if there is none. In a list of tables the last one
is meant, where lists may be entered. -/
def within (lists : Bool) (change : Table → Option Table) : Key → Table → Option Table
  | [], t => change t
  | k :: ks, t =>
    match Value.field? k t with
    | none => (within lists change ks []).map fun u => setField k (.table u) t
    | some (.table u) => (within lists change ks u).map fun u => setField k (.table u) t
    | some (.list items) =>
      match lists, items.reverse with
      | true, .table u :: before =>
        (within lists change ks u).map fun u => setField k (.list (before.reverse ++ [.table u])) t
      | _, _ => none
    | some _ => none

/-- Puts a value under a name that is not taken. -/
def insertNew (name : String) (v : Value) (t : Table) : Option Table :=
  if (Value.field? name t).isSome then none else some (setField name v t)

/-- Appends a table to the list under a name. -/
def appendTable (name : String) (t : Table) : Option Table :=
  match Value.field? name t with
  | none => some (setField name (.list [.table []]) t)
  | some (.list items) => some (setField name (.list (items ++ [.table []])) t)
  | some _ => none

/-- A list or a table, to which nothing can be added once it is written out. -/
def isClosed : Value → Bool
  | .list _ | .table _ => true
  | _ => false

/-- A key lies at or below one of these. -/
def isBelow (keys : List Key) (key : Key) : Bool := keys.any (·.isPrefixOf key)

/-- A key and its value, read by the given reader. -/
def pair (value : Reader Value) : Reader (Key × Value) := do
  let k ← key
  expect ['=']
  skip isSpace
  return (k, ← value)

/-- The items of a list after its bracket or a comma, at most `n`. -/
def items (value : Reader Value) : Nat → Reader (List Value)
  | 0 => failure
  | n + 1 => do
    gap
    if ← try1 [']'] then return []
    let v ← value
    gap
    if ← try1 [']'] then return [v]
    expect [',']
    return v :: (← items value n)

/-- The pairs of a table on one line, at most `n`, entered into the table so far. `closed` are the
keys of lists and tables in it. -/
def pairs (value : Reader Value) (closed : List Key) (t : Table) : Nat → Reader Table
  | 0 => failure
  | n + 1 => do
    let (k, v) ← pair value
    if isBelow closed k then failure
    let some t := within false (insertNew (k.getLastD "") v) k.dropLast t | failure
    skip isSpace
    if ← try1 [Char.ofNat 0x7d] then return t
    expect [',']
    skip isSpace
    pairs value (if isClosed v then k :: closed else closed) t n

/-- A value in which lists and tables are nested at most so deep. -/
def value : Nat → Reader Value
  | 0 => failure
  | depth + 1 => do
    if ← try1 ['"', '"', '"'] then return .text (← multiline false)
    if ← try1 ['"'] then return .text (String.ofList (← basic false))
    if ← try1 [Text.apostrophe, Text.apostrophe, Text.apostrophe] then
      return .text (← multiline true)
    if (← peek) == some Text.apostrophe then return .text (← literal)
    if ← try1 "true".toList then return .bool true
    if ← try1 "false".toList then return .bool false
    if ← try1 ['['] then return .list (← items (value depth) (← get).length)
    if ← try1 [Char.ofNat 0x7b] then
      skip isSpace
      if ← try1 [Char.ofNat 0x7d] then return .table []
      return .table (← pairs (value depth) [] [] (← get).length)
    match ← moment? with
    | some m => return .moment m
    | none => either number namedNumber

/-- A document being read. -/
structure Draft where
  table : Table := []
  /-- The table that statements go to. -/
  header : Key := []
  /-- The tables that may not be opened by a header again. -/
  declared : List Key := []
  /-- Those that may not be from the next header on. -/
  pending : List Key := []
  /-- The lists and tables that were written out as values. -/
  closed : List Key := []

/-- The nonempty proper beginnings of a key. -/
def beginnings (k : Key) : List Key := ((List.range k.length).drop 1).map k.take

/-- A statement: puts a value under a key of the current table. -/
def statement (d : Draft) : Reader Draft := do
  let (k, v) ← pair (value (← get).length)
  let opened := (beginnings k).map (d.header ++ ·)
  if opened.any d.declared.contains then failure
  let parent := d.header ++ k.dropLast
  if isBelow d.closed parent then failure
  let some table := within true (insertNew (k.getLastD "") v) parent d.table | failure
  return { d with
    table
    pending := opened ++ d.pending
    closed := if isClosed v then (d.header ++ k) :: d.closed else d.closed }

/-- A header of a table. -/
def tableHeader (d : Draft) : Reader Draft := do
  skip isSpace
  let k ← key
  if d.declared.contains k || isBelow d.closed k then failure
  let some table := within true some k d.table | failure
  expect [']']
  return { d with table, header := k, declared := k :: d.declared }

/-- A header of one more table in a list. What stood below the list is about an earlier table. -/
def listHeader (d : Draft) : Reader Draft := do
  skip isSpace
  let k ← key
  if isBelow d.closed k then failure
  let some table := within true (appendTable (k.getLastD "")) k.dropLast d.table | failure
  expect [']', ']']
  return {
    table
    header := k
    pending := d.pending
    declared := k :: d.declared.filter fun j => !k.isPrefixOf j
    closed := d.closed.filter fun j => !k.isPrefixOf j }

/-- A header of either sort. -/
def header (d : Draft) : Reader Draft := do
  let d := { d with declared := d.pending ++ d.declared, pending := [] }
  if ← try1 ['[', '['] then listHeader d
  else
    expect ['[']
    tableHeader d

/-- One line: a statement, a header or nothing, then a comment or nothing. -/
def line (d : Draft) : Reader Draft := do
  skip isSpace
  let d ← match ← peek with
    | none => pure d
    | some c =>
      if isKeyChar c || c == '"' || c == Text.apostrophe then statement d
      else if c == '[' then header d
      else if c == '#' || c == '\n' then pure d
      else failure
  skip isSpace
  comment
  return d

/-- At most `n` lines up to the end of the document. -/
def lines : Nat → Draft → Reader Draft
  | 0, _ => failure
  | n + 1, d => do
    let d ← line d
    if (← get).isEmpty then return d
    expect ['\n']
    lines n d

/-- The text with every carriage return in front of a line feed left out. -/
def joinLineEnds : List Char → List Char
  | '\r' :: '\n' :: cs => '\n' :: joinLineEnds cs
  | c :: cs => c :: joinLineEnds cs
  | [] => []

/-- The table that a document describes. -/
def read (text : List Char) : Option Table :=
  let cs := joinLineEnds text
  ((lines (cs.length + 1) {}) cs).map fun (d, _) => d.table

end JavaAtlas.Toml
