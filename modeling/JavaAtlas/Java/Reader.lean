import JavaAtlas.Java.Token

/-! Readers of token lists. A reader takes tokens from the front of the list or fails; after a
failure another reader may be tried. -/

namespace JavaAtlas.Java

/-- Why reading stops. -/
inductive Failure where
  /-- The text does not fit here. The line is that of the token at which it shows. -/
  | refused (line : Option Nat)
  /-- A token is demanded after the last one. No other reader is tried then. -/
  | exhausted
deriving Repr, DecidableEq

/-- Where a reader stands: the tokens ahead, and for each trial under way the tokens it goes back to
when it fails, the innermost trial first. -/
structure Place where
  rest : List Token
  marks : List (List Token) := []

/-- A reader leaves its place behind also when it fails. -/
abbrev Reader := ExceptT Failure (StateM Place)

namespace Reader

/-- The tokens ahead. -/
def ahead : Reader (List Token) := do return (← get).rest

/-- Goes on from these tokens. -/
def goOnFrom (rest : List Token) : Reader Unit := modify ({ · with rest })

/-- The token `i` places ahead. -/
def look (i : Nat) : Reader (Option Token) := do return (← ahead)[i]?

/-- The text does not fit at the next token. -/
def refuse {α : Type} : Reader α := do
  throw (.refused ((← look 0).map Token.line))

/-- Takes the next token. When it is not as asked, what follows it is where the failure shows. -/
def take (asked : Token → Bool) : Reader Token := do
  match ← ahead with
  | [] => throw .exhausted
  | t :: ts =>
    goOnFrom ts
    if asked t then return t else refuse

def expect (text : String) : Reader Unit := do let _ ← take (Token.is text)

def identifier : Reader String := do return (← take Token.isWord).text

/-- The next tokens are as asked, one after the other. -/
def fits : List (Token → Bool) → List Token → Bool
  | [], _ => true
  | _, [] => false
  | p :: ps, t :: ts => p t && fits ps ts

/-- The next tokens are as asked. -/
def sees (asked : List (Token → Bool)) : Reader Bool := do return fits asked (← ahead)

/-- The next token is spelled this way. -/
def next (text : String) : Reader Bool := sees [Token.is text]

/-- The next tokens are spelled this way. -/
def nextAll (texts : List String) : Reader Bool := sees (texts.map Token.is)

/-- The next token is one of these. -/
def nextIn (texts : List String) : Reader Bool := sees [fun t => texts.contains t.text]

/-- Takes the next tokens if they are spelled this way. -/
def tryAll (texts : List String) : Reader Bool := do
  if ← nextAll texts then
    goOnFrom ((← ahead).drop texts.length)
    return true
  else
    return false

/-- Takes the next token if it is spelled this way. -/
def try1 (text : String) : Reader Bool := tryAll [text]

/-- Takes the next token, which may be anything. -/
def any : Reader Token := take fun _ => true

/-- Reads, or takes nothing where that fails. -/
def attempt {α : Type} (r : Reader α) : Reader (Option α) := do
  let place ← get
  try
    return some (← r)
  catch _ =>
    set place
    return none

/-- Looks whether a reader fits, and takes nothing. -/
def fitsHere {α : Type} (r : Reader α) : Reader Bool := do
  let place ← get
  let found ← attempt r
  set place
  return found.isSome

/-- Marks the tokens ahead as those to go back to. -/
def mark : Reader Unit := modify fun p => { p with marks := p.rest :: p.marks }

/-- Gives up the last mark. The mark around it moves to its place. -/
def unmark : Reader Unit :=
  modify fun p =>
    { p with
      marks := match p.marks with
        | m :: _ :: ms => m :: ms
        | _ => [] }

/-- Goes back to the last mark and gives it up. -/
def goBack : Reader Unit :=
  modify fun p =>
    match p.marks with
    | m :: ms => { rest := m, marks := ms }
    | [] => p

/-- Tries a reader, and goes back to the mark of the trial if it fails. The mark is where the trial
began or, past that, where the last trial inside it that came to an end began. -/
def trial {α : Type} (r : Reader α) : Reader (Option α) := do
  mark
  try
    let a ← r
    unmark
    return some a
  catch e =>
    goBack
    match e with
    | .refused _ => return none
    | .exhausted => throw .exhausted

/-- The first of two readers that fits. -/
def orElse {α : Type} (r s : Reader α) : Reader α := do
  match ← attempt r with
  | some a => return a
  | none => s

/-- Repeats a step until it answers `none`, after at most one other answer for each token. -/
def repeatAlong {α : Type} (step : Reader (Option α)) : List Token → Reader (List α)
  | [] => do
    match ← step with
    | none => return []
    | some _ => throw .exhausted
  | _ :: ts => do
    match ← step with
    | none => return []
    | some a => return a :: (← repeatAlong step ts)

/-- Repeats a step until it answers `none`. Every other answer takes a token, so the tokens left
bound the repetitions. -/
def repeated {α : Type} (step : Reader (Option α)) : Reader (List α) := do
  repeatAlong step (← ahead)

/-- Repeats a reader while the next token is not this one. -/
def untilNext {α : Type} (stop : String) (r : Reader α) : Reader (List α) :=
  repeated do
    if ← next stop then return none else return some (← r)

/-- One or more items with a separator between them. -/
def separated {α : Type} (separator : String) (item : Reader α) : Reader (List α) := do
  let first ← item
  let rest ← repeated do
    if ← try1 separator then return some (← item) else return none
  return first :: rest

/-- Reads if the next token is spelled this way. -/
def whenNext {α : Type} (text : String) (r : Reader α) : Reader (Option α) := do
  if ← next text then return some (← r) else return none

/-- The number of pairs of square brackets that follow. -/
def dimensions : Reader Nat := do
  let pairs ← repeated do
    if ← tryAll ["[", "]"] then return some () else return none
  return pairs.length

end Reader

end JavaAtlas.Java
