import JavaAtlas.Text.Quoted

/-! Texts and keys of TOML documents. Readers work on the characters left and fail without a reason,
because a document is either read or not. -/

namespace JavaAtlas.Toml

/-- Takes something from the front of the text, or fails. -/
abbrev Reader := StateT (List Char) Option

/-- A space or a tab. -/
def isSpace (c : Char) : Bool := c == ' ' || c == '\t'

/-- A space, a tab or the end of a line. -/
def isSpaceOrEnd (c : Char) : Bool := isSpace c || c == '\n'

/-- A control character of ASCII other than the tab. -/
def isControl (c : Char) : Bool := (c.toNat < 32 && c != '\t') || c.toNat == 127

/-- A control character other than the tab and the end of a line. -/
def isControlInLines (c : Char) : Bool := isControl c && c != '\n'

/-- A character of a key without quotes. -/
def isKeyChar (c : Char) : Bool := c.isAlphanum || c == '-' || c == '_'

def isHexDigit (c : Char) : Bool :=
  c.isDigit || ('a' ≤ c && c ≤ 'f') || ('A' ≤ c && c ≤ 'F')

/-- Passes over characters of a class. -/
def skip (p : Char → Bool) : Reader Unit := modify (List.dropWhile p)

/-- The next character. -/
def peek : Reader (Option Char) := do return (← get).head?

/-- The text goes on with these characters. -/
def sees (cs : List Char) : Reader Bool := do return cs.isPrefixOf (← get)

/-- Passes over these characters if they come next. -/
def try1 (cs : List Char) : Reader Bool := do
  if ← sees cs then
    modify (List.drop cs.length)
    return true
  else return false

/-- Passes over these characters, which have to come next. -/
def expect (cs : List Char) : Reader Unit := do
  if !(← try1 cs) then failure

/-- The characters in front of the first occurrence of a mark, and those behind it. -/
def splitAtMark (mark : List Char) : List Char → Option (List Char × List Char)
  | [] => none
  | c :: cs =>
    if mark.isPrefixOf (c :: cs) then some ([], (c :: cs).drop mark.length)
    else (splitAtMark mark cs).map fun (before, rest) => (c :: before, rest)

/-- The text up to a mark, which is passed over. No refused character may stand in it. -/
def upTo (mark : List Char) (refused : Char → Bool) : Reader (List Char) := fun cs => do
  let (before, rest) ← splitAtMark mark cs
  if before.any refused then none else some (before, rest)

/-- Passes over a comment, if one comes next. It ends before the end of the line. -/
def comment : Reader Unit := do
  if ← try1 ['#'] then
    let body := (← get).takeWhile (· != '\n')
    if body.any isControl then failure
    modify (List.drop body.length)

/-- Passes over one blank stretch or comment after the other, at most `n`. -/
def gapUpTo : Nat → Reader Unit
  | 0 => return
  | n + 1 => do
    let before ← get
    skip isSpaceOrEnd
    comment
    if (← get).length != before.length then gapUpTo n

/-- Passes over blanks, ends of lines and comments. -/
def gap : Reader Unit := do gapUpTo (← get).length

/-- A text in apostrophes, which is taken as it stands. -/
def literal : Reader String := do
  expect [Text.apostrophe]
  return String.ofList (← upTo [Text.apostrophe] isControl)

/-- The value of a digit, of a letter as in hexadecimal numbers. -/
def digitValue (c : Char) : Nat :=
  if c.isDigit then c.toNat - '0'.toNat
  else if c.isUpper then c.toNat - 'A'.toNat + 10
  else c.toNat - 'a'.toNat + 10

/-- The value of some digits. -/
def valueOf (base : Nat) (cs : List Char) : Nat := cs.foldl (fun n c => n * base + digitValue c) 0

/-- The character with this many hexadecimal digits. -/
def hexChar (count : Nat) : Reader (List Char) := do
  let digits := (← get).take count
  if digits.length != count || !digits.all isHexDigit then failure
  modify (List.drop count)
  let n := valueOf 16 digits
  if !n.isValidChar then failure
  return [Char.ofNat n]

/-- What an escape of one character stands for. -/
def escapes : List (Char × Char) :=
  [('b', Char.ofNat 8), ('t', '\t'), ('n', '\n'), ('f', Char.ofNat 12), ('r', '\r'), ('"', '"'),
   ('\\', '\\')]

/-- What an escape stands for, after its backslash. In a text of several lines a backslash before
the end of a line takes away that end and all blanks after it. -/
def escape (multiline : Bool) : Reader (List Char) := do
  let c :: rest ← get | failure
  set rest
  if multiline && isSpaceOrEnd c then
    if c != '\n' then
      skip isSpace
      if (← get).isEmpty then return []
      expect ['\n']
    skip isSpaceOrEnd
    return []
  if c == 'u' then hexChar 4
  else if c == 'U' then hexChar 8
  else
    match escapes.lookup c with
    | some d => return [d]
    | none => failure

/-- The rest of a text in quotation marks; `done` is its start in reverse order. At most `n`
characters and escapes are read. -/
def basicFrom (multiline : Bool) : Nat → List Char → Reader (List Char)
  | 0, _ => failure
  | n + 1, done => do
    if ← try1 (if multiline then ['"', '"', '"'] else ['"']) then return done.reverse
    else if ← try1 ['\\'] then
      let cs ← escape multiline
      basicFrom multiline n (cs.reverse ++ done)
    else
      let c :: rest ← get | failure
      if isControl c && !(multiline && c == '\n') then failure
      set rest
      basicFrom multiline n (c :: done)

/-- The rest of a text in quotation marks. -/
def basic (multiline : Bool) : Reader (List Char) := do
  basicFrom multiline ((← get).length + 1) []

/-- Up to two more marks, which belong to the text when they come before the closing ones. -/
def extraMarks (mark : Char) : Reader (List Char) := do
  if ← try1 [mark, mark] then return [mark, mark]
  else if ← try1 [mark] then return [mark]
  else return []

/-- A text of several lines after its opening marks. An end of line right after them is left out. -/
def multiline (isLiteral : Bool) : Reader String := do
  let _ ← try1 ['\n']
  if isLiteral then
    let mark := Text.apostrophe
    let body ← upTo [mark, mark, mark] isControlInLines
    return String.ofList (body ++ (← extraMarks mark))
  else
    let body ← basic true
    return String.ofList (body ++ (← extraMarks '"'))

/-- A part of a key. -/
def keyPart : Reader String := do
  match ← peek with
  | none => failure
  | some c =>
    if isKeyChar c then
      let word := (← get).takeWhile isKeyChar
      skip isKeyChar
      return String.ofList word
    else if c == Text.apostrophe then literal
    else if c == '"' then
      expect ['"']
      return String.ofList (← basic false)
    else failure

/-- More parts of a key, at most `n`, each after a point. -/
def keyParts : Nat → Reader (List String)
  | 0 => return []
  | n + 1 => do
    skip isSpace
    if ← try1 ['.'] then
      skip isSpace
      let part ← keyPart
      return part :: (← keyParts n)
    else return []

/-- A key: parts with points between them. -/
def key : Reader (List String) := do
  let first ← keyPart
  return first :: (← keyParts (← get).length)

end JavaAtlas.Toml
