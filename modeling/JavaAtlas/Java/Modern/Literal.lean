import JavaAtlas.Java.Token

/-! How far literals and comments of current Java reach. Lengths count characters, and a length of
zero says that there is no such literal. -/

namespace JavaAtlas.Java.Modern

/-- White space. -/
def isSpace (c : Char) : Bool := c == ' ' || (0x9 ≤ c.toNat && c.toNat ≤ 0xd)

def isHexDigit (c : Char) : Bool :=
  c.isDigit || ('a' ≤ c && c ≤ 'f') || ('A' ≤ c && c ≤ 'F')

def isOctalDigit (c : Char) : Bool := '0' ≤ c && c ≤ '7'

def isBinaryDigit (c : Char) : Bool := c == '0' || c == '1'

def quote : Char := Char.ofNat 0x22

/-- The length of more digits, each after at most one low line. -/
def moreDigits (isDigit : Char → Bool) : List Char → Nat
  | [] => 0
  | ['_'] => 0
  | '_' :: d :: cs => if isDigit d then 2 + moreDigits isDigit cs else 0
  | c :: cs => if isDigit c then 1 + moreDigits isDigit cs else 0

/-- The length of a run of digits with single low lines between them. -/
def runLength (isDigit : Char → Bool) : List Char → Nat
  | [] => 0
  | c :: cs => if isDigit c then 1 + moreDigits isDigit cs else 0

/-- The length of a decimal number without a leading zero, or of the zero. -/
def wholeLength (cs : List Char) : Nat :=
  if oneOf ['0'] cs == 1 then 1 else runLength Char.isDigit cs

/-- The length of an exponent with its mark, or zero when no digits follow the mark. -/
def exponentLength (marks : List Char) (digits : List Char → Nat) (cs : List Char) : Nat :=
  if oneOf marks cs == 0 then 0
  else
    let sign := oneOf ['-', '+'] (cs.drop 1)
    let length := digits (cs.drop (1 + sign))
    if length == 0 then 0 else 1 + sign + length

/-- The length of a literal with one of these suffixes, if it is there. -/
def withSuffix (suffixes : List Char) (length : Nat) (cs : List Char) : Nat :=
  if length == 0 then 0 else length + oneOf suffixes (cs.drop length)

def longSuffixes : List Char := ['l', 'L']

def floatSuffixes : List Char := ['f', 'F', 'd', 'D']

def decimalLength (cs : List Char) : Nat := withSuffix longSuffixes (wholeLength cs) cs

/-- The length of an octal number: a zero, which may be marked, and octal digits. -/
def octalLength (cs : List Char) : Nat :=
  if oneOf ['0'] cs == 0 then 0
  else
    let start := 1 + oneOf ['o', 'O'] (cs.drop 1)
    let digits := runLength isOctalDigit (cs.drop start)
    withSuffix longSuffixes (if digits == 0 then 0 else start + digits) cs

/-- The text starts with a zero and one of these marks of a base. -/
def startsBase (marks : List Char) (cs : List Char) : Bool :=
  oneOf ['0'] cs == 1 && oneOf marks (cs.drop 1) == 1

def binaryLength (cs : List Char) : Nat :=
  let digits := runLength isBinaryDigit (cs.drop 2)
  if startsBase ['b', 'B'] cs && digits != 0 then withSuffix longSuffixes (2 + digits) cs else 0

def hexLength (cs : List Char) : Nat :=
  let digits := runLength isHexDigit (cs.drop 2)
  if startsBase ['x', 'X'] cs && digits != 0 then withSuffix longSuffixes (2 + digits) cs else 0

/-- The length of a number with a decimal point. -/
def pointLength (cs : List Char) : Nat :=
  let whole := runLength Char.isDigit cs
  let fraction := runLength Char.isDigit (cs.drop (whole + 1))
  if oneOf ['.'] (cs.drop whole) == 0 || whole + fraction == 0 then 0
  else
    let length := whole + 1 + fraction
    let exponent := exponentLength ['e', 'E'] (runLength Char.isDigit) (cs.drop length)
    withSuffix floatSuffixes (length + exponent) cs

/-- The length of a number without a point that an exponent or a suffix makes a floating-point
number. -/
def scientificLength (cs : List Char) : Nat :=
  let whole := wholeLength cs
  let exponent := exponentLength ['e', 'E'] (runLength Char.isDigit) (cs.drop whole)
  let length := withSuffix floatSuffixes (whole + exponent) cs
  if whole == 0 || length == whole then 0 else length

/-- The length of a hexadecimal floating-point number. Its exponent may be left out. -/
def hexFloatLength (cs : List Char) : Nat :=
  let whole := runLength isHexDigit (cs.drop 2)
  let point := oneOf ['.'] (cs.drop (2 + whole))
  let fraction := if point == 0 then 0 else runLength isHexDigit (cs.drop (3 + whole))
  if !startsBase ['x', 'X'] cs || whole + fraction == 0 then 0
  else
    let length := 2 + whole + point + fraction
    let exponent := exponentLength ['p', 'P'] wholeLength (cs.drop length)
    if exponent == 0 then length else withSuffix floatSuffixes (length + exponent) cs

/-- The length of the longest number that the text starts with. -/
def numberLength (cs : List Char) : Nat :=
  [decimalLength cs, octalLength cs, binaryLength cs, hexLength cs, pointLength cs,
    scientificLength cs, hexFloatLength cs].foldr max 0

/-- The length of an escape after its backslash, or `none` where digits are missing. -/
def escapeLength (cs : List Char) : Option Nat :=
  match cs with
  | [] => none
  | 'x' :: rest =>
    if (rest.take 2).length == 2 && (rest.take 2).all isHexDigit then some 3 else none
  | 'u' :: rest =>
    if (rest.take 4).length == 4 && (rest.take 4).all isHexDigit then some 5
    else if oneOf ['\x7b'] rest == 1 then
      let digits := ((rest.drop 1).takeWhile isHexDigit).length
      if digits != 0 && oneOf ['\x7d'] (rest.drop (1 + digits)) == 1 then some (digits + 3)
      else none
    else none
  | c :: rest =>
    if isOctalDigit c then some (1 + ((rest.take 2).takeWhile isOctalDigit).length) else some 1

theorem escapeLength_pos {cs : List Char} {n : Nat} (h : escapeLength cs = some n) : 0 < n := by
  unfold escapeLength at h
  split at h
  · simp at h
  · split at h <;> simp_all; omega
  · split at h
    · simp at h; omega
    · split at h
      · simp only at h
        split at h <;> simp_all; omega
      · simp at h
  · split at h <;> simp at h <;> omega

/-- The length of a character literal after its first mark. It holds one character at least and
ends on its line, escaped line ends apart. -/
def characterLength (length : Nat) : List Char → Option Nat
  | [] => none
  | ['\\'] => none
  | '\\' :: _ :: cs => characterLength (length + 2) cs
  | c :: cs =>
    if c == Char.ofNat 0x27 then if length == 0 then none else some (length + 1)
    else if c == '\n' then none
    else characterLength (length + 1) cs

/-- The length of the comment that the text starts with. -/
def commentLength (cs : List Char) : Option Nat :=
  match cs with
  | '/' :: '/' :: rest => some (2 + (rest.takeWhile (· != '\n')).length)
  | '/' :: '*' :: rest => (blockLength 0 rest).map (2 + ·)
  | _ => none

/-- A part of a string: how long it is, and whether an expression follows it. -/
structure Part where
  length : Nat
  opens : Bool

/-- The part of a string up to its closing mark or to the next expression. -/
def stringPart (length : Nat) : List Char → Option Part
  | [] => none
  | c :: cs =>
    if c == '\\' then
      if oneOf ['\x7b'] cs == 1 then some ⟨length + 2, true⟩
      else
        match _h : escapeLength cs with
        | none => none
        | some n => stringPart (length + 1 + n) (cs.drop n)
    else if c == quote then some ⟨length + 1, false⟩
    else stringPart (length + 1) cs
termination_by cs => cs.length
decreasing_by
  · have := escapeLength_pos _h
    simp only [List.length_cons, List.length_drop]
    omega
  · simp only [List.length_cons]; omega

/-- Where a text block stands: at the start of a piece, in plain text, or after a quotation mark. -/
inductive BlockState where
  | fresh
  | plain
  | quoted
deriving DecidableEq

/-- How far blanks and a comment reach if they reach further than the plain text that starts here,
else zero. Such a comment is left out, with all quotation marks in it. -/
def commentReach (cs : List Char) : Nat :=
  let plain := (cs.takeWhile fun c => c != quote && c != '\\').length
  let blanks := (cs.takeWhile isSpace).length
  match commentLength (cs.drop blanks) with
  | some n => if plain < blanks + n then blanks + n else 0
  | none => 0

/-- The part of a text block up to its closing marks or to the next expression. Any character may
follow a backslash. -/
def blockPart (state : BlockState) (length : Nat) : List Char → Option Part
  | [] => none
  | c :: cs =>
    if c == '\\' then
      if cs.isEmpty then none
      else if oneOf ['\x7b'] cs == 1 then some ⟨length + 2, true⟩
      else if state = .quoted && oneOf [quote] cs == 1 then
        blockPart .quoted (length + 2) (cs.drop 1)
      else
        let n := (escapeLength cs).getD 1
        blockPart .fresh (length + 1 + n) (cs.drop n)
    else if c == quote then
      if cs.take 2 == [quote, quote] then some ⟨length + 3, false⟩
      else blockPart .quoted (length + 1) cs
    else if state = .fresh then
      let reach := commentReach (c :: cs)
      if reach == 0 then blockPart .plain (length + 1) cs
      else blockPart .fresh (length + reach) (cs.drop (reach - 1))
    else blockPart state (length + 1) cs
termination_by cs => cs.length
decreasing_by all_goals simp only [List.length_cons, List.length_drop]; omega

/-- The two kinds of strings. -/
inductive StringKind where
  | line
  | block
deriving DecidableEq

/-- The next part of a string. -/
def StringKind.part (kind : StringKind) (cs : List Char) : Option Part :=
  match kind with
  | .line => stringPart 0 cs
  | .block => blockPart .fresh 0 cs

end JavaAtlas.Java.Modern
