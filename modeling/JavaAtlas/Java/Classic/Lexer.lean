import JavaAtlas.Java.Token
import JavaAtlas.Text.Blank
import JavaAtlas.Text.Category

/-! The tokens of Java 8 text. Unicode escapes are decoded first, in the whole text; blanks and
comments separate tokens and are dropped; only a line feed starts a new line. The marks `>>` and
`>>>` are read as single marks, so that argument lists can close. -/

namespace JavaAtlas.Java.Classic

def keywords : List String :=
  ["abstract", "assert", "boolean", "break", "byte", "case", "catch", "char", "class", "const",
    "continue", "default", "do", "double", "else", "enum", "extends", "final", "finally", "float",
    "for", "goto", "if", "implements", "import", "instanceof", "int", "interface", "long", "native",
    "new", "package", "private", "protected", "public", "return", "short", "static", "strictfp",
    "super", "switch", "synchronized", "this", "throw", "throws", "transient", "try", "void",
    "volatile", "while"]

/-- The words that name a value. -/
def constants : List String := ["true", "false", "null"]

/-- The keywords that modify a declaration. -/
def modifiers : List String :=
  ["abstract", "default", "final", "native", "private", "protected", "public", "static", "strictfp",
    "synchronized", "transient", "volatile"]

def separators : List Char := ['(', ')', '{', '}', '[', ']', ';', ',', '.']

/-- The operators, longest first. -/
def operators : List String :=
  [">>>=", ">>=", "<<=", "...", "%=", "^=", "|=", "&=", "/=", "*=", "-=", "+=", "<<", "--", "++",
    "||", "&&", "!=", ">=", "<=", "==", "->", "::", "%", "^", "|", "&", "/", "*", "-", "+", ":",
    "?", "~", "!", "<", ">", "="]

/-- A character that an identifier may start with: letters, letter numbers, connectors and
currency signs. -/
def isIdentifierStart (c : Char) : Bool :=
  Text.isLetter c || c == '_' || c == '$' ||
    (0x80 ≤ c.toNat &&
      (Text.inRanges Text.Category.letterNumber c.toNat ||
        Text.inRanges Text.Category.connector c.toNat ||
        Text.inRanges Text.Category.currency c.toNat))

/-- A character that an identifier may go on with: also digits and combining marks. -/
def isIdentifierPart (c : Char) : Bool :=
  isIdentifierStart c || Text.isDecimalDigit c ||
    (0x80 ≤ c.toNat && Text.inRanges Text.Category.mark c.toNat)

def isHexDigit (c : Char) : Bool :=
  c.isDigit || ('a' ≤ c && c ≤ 'f') || ('A' ≤ c && c ≤ 'F')

def isOctalDigit (c : Char) : Bool := '0' ≤ c && c ≤ '7'

/-- The value of a hexadecimal digit. Decimal digits of every script count. -/
def hexDigit? (c : Char) : Option Nat :=
  if c.isDigit then some (c.toNat - '0'.toNat)
  else if isHexDigit c then some (c.toLower.toNat - 'a'.toNat + 10)
  else if c.toNat < 0x80 then none
  else
    (Text.Category.decimalDigit.find? fun (low, high) => low ≤ c.toNat && c.toNat ≤ high).map
      fun (low, _) => (c.toNat - low) % 10

/-- The value of hexadecimal digits, with single low lines between them. -/
def hexDigits (value : Nat) : List Char → Option Nat
  | [] => some value
  | '_' :: c :: cs => do hexDigits (value * 16 + (← hexDigit? c)) cs
  | c :: cs => do hexDigits (value * 16 + (← hexDigit? c)) cs

/-- A blank around a number: one of ASCII's six, or a blank outside ASCII. -/
def isNumberBlank (c : Char) : Bool :=
  if c.toNat < 0x7f then c == ' ' || (0x9 ≤ c.toNat && c.toNat ≤ 0xd) else Text.isBlank c

/-- The digits of a number after the mark of its base, which may be left out. A low line may follow
the mark. -/
def hexNumeral? (cs : List Char) : Option Nat :=
  match cs with
  | '0' :: x :: rest =>
    if x == 'x' || x == 'X' then
      match rest with
      | '_' :: c :: rest => do hexDigits (← hexDigit? c) rest
      | c :: rest => do hexDigits (← hexDigit? c) rest
      | [] => none
    else hexDigits 0 (x :: rest)
  | c :: rest => do hexDigits (← hexDigit? c) rest
  | [] => none

/-- A hexadecimal number with blanks around it and a sign. Below zero there is none. -/
def hexNumber? (cs : List Char) : Option Nat :=
  let cs := (cs.dropWhile isNumberBlank).reverse.dropWhile isNumberBlank |>.reverse
  match cs with
  | '+' :: cs => hexNumeral? cs
  | '-' :: cs => (hexNumeral? cs).filter (· == 0)
  | cs => hexNumeral? cs

/-- The character of an escape. Half of a surrogate pair has no character of its own, and stands as
the replacement character. -/
def escapedChar (n : Nat) : Char :=
  if 0xd800 ≤ n && n < 0xe000 then '\ufffd' else Char.ofNat n

/-- The text with its Unicode escapes decoded; `since` holds the characters since the last escape,
last one first. An escape is a backslash, one or more `u` and a hexadecimal number in the next four
characters. Where the text ends before the number, what stands since the last escape is written
twice. A backslash in front of another character stands for itself, and so does that character. -/
def decodeEscapes (since : List Char) : List Char → Option (List Char)
  | [] => some since.reverse
  | '\\' :: 'u' :: rest =>
    let number := rest.dropWhile (· == 'u')
    if number.isEmpty then some (since.reverse ++ since.reverse ++ '\\' :: 'u' :: rest)
    else
      match hexNumber? (number.take 4), decodeEscapes [] (number.drop 4) with
      | some n, some decoded => some (since.reverse ++ escapedChar n :: decoded)
      | _, _ => none
  | '\\' :: c :: rest => decodeEscapes (c :: '\\' :: since) rest
  | c :: rest => decodeEscapes (c :: since) rest
termination_by cs => cs.length
decreasing_by
  · have h := (List.dropWhile_suffix (l := rest) (· == 'u')).length_le
    simp only [List.length_cons, List.length_drop]
    omega
  · simp only [List.length_cons]; omega
  · simp only [List.length_cons]; omega

/-- The length of a run of digits. Low lines inside it count, `pending` of them wait for a digit. A
long suffix belongs to the run. -/
def digitsLength (isDigit : Char → Bool) (length pending : Nat) : List Char → Nat
  | [] => length
  | c :: cs =>
    if isDigit c then digitsLength isDigit (length + 1 + pending) 0 cs
    else if c == '_' then digitsLength isDigit length (pending + 1) cs
    else if c == 'l' || c == 'L' then length + 1
    else length

/-- The length of a run of digits that is not at the end of the text. -/
def digitsLength? (isDigit : Char → Bool) (cs : List Char) : Option Nat :=
  if cs.isEmpty then none else some (digitsLength isDigit 0 0 cs)

/-- The length of an exponent after its mark, and of a suffix after that. -/
def exponentLength (cs : List Char) : Option Nat := do
  let sign := oneOf ['-', '+'] cs
  let digits ← digitsLength? Char.isDigit (cs.drop sign)
  return sign + digits + oneOf ['f', 'F', 'd', 'D'] (cs.drop (sign + digits))

/-- The length of a decimal integer or floating-point literal. -/
def decimalLength (cs : List Char) : Option Nat := do
  let whole ← digitsLength? Char.isDigit cs
  if oneOf ['.', 'e', 'E', 'f', 'F', 'd', 'D'] (cs.drop whole) == 0 then return whole
  let point := oneOf ['.'] (cs.drop whole)
  let fraction ← if point == 0 then some 0 else digitsLength? Char.isDigit (cs.drop (whole + 1))
  let length := whole + point + fraction
  if oneOf ['e', 'E'] (cs.drop length) == 1 then
    return length + 1 + (← exponentLength (cs.drop (length + 1)))
  else return length + oneOf ['f', 'F', 'd', 'D'] (cs.drop length)

/-- The length of a hexadecimal integer or floating-point literal. -/
def hexLength (cs : List Char) : Option Nat := do
  let whole := 2 + (← digitsLength? isHexDigit (cs.drop 2))
  if oneOf ['.', 'p', 'P'] (cs.drop whole) == 0 then return whole
  let point := oneOf ['.'] (cs.drop whole)
  let fraction ← if point == 0 then some 0 else digitsLength? isHexDigit (cs.drop (whole + 1))
  let length := whole + point + fraction
  if oneOf ['p', 'P'] (cs.drop length) == 1 then
    return length + 1 + (← exponentLength (cs.drop (length + 1)))
  else none

/-- The length of a number that starts with a digit, or with a point and a digit. -/
def numberLength (cs : List Char) : Option Nat :=
  match cs with
  | ['0'] => none
  | '0' :: c :: _ =>
    if c == 'x' || c == 'X' then hexLength cs
    else if c == 'b' || c == 'B' then
      (digitsLength? (fun d => d == '0' || d == '1') (cs.drop 2)).map (2 + ·)
    else if isOctalDigit c then (digitsLength? isOctalDigit (cs.drop 1)).map (1 + ·)
    else decimalLength cs
  | _ => decimalLength cs

/-- Where a character or string literal stands: in plain text, after a backslash, or after one or
two octal digits of an escape. -/
inductive LiteralState where
  | plain
  | escape
  | octal
  | lastOctal

/-- The length of the rest of a character or string literal up to its closing mark, which may stand
on a later line. -/
def literalLength (mark : Char) (state : LiteralState) (length : Nat) : List Char → Option Nat
  | [] => none
  | c :: cs =>
    match state with
    | .escape =>
      if ['b', 't', 'n', 'f', 'r', 'u', Char.ofNat 0x22, Char.ofNat 0x27, '\\'].contains c then
        literalLength mark .plain (length + 1) cs
      else if '0' ≤ c && c ≤ '3' then literalLength mark .octal (length + 1) cs
      else if isOctalDigit c then literalLength mark .lastOctal (length + 1) cs
      else none
    | .octal =>
      if isOctalDigit c then literalLength mark .lastOctal (length + 1) cs
      else if c == '\\' then literalLength mark .escape (length + 1) cs
      else if c == mark then some (length + 1)
      else literalLength mark .octal (length + 1) cs
    | _ =>
      if c == '\\' then literalLength mark .escape (length + 1) cs
      else if c == mark then some (length + 1)
      else literalLength mark .plain (length + 1) cs

/-- The length of a comment up to the end of its line, the line feed included. -/
def lineLength (cs : List Char) : Nat :=
  let length := (cs.takeWhile (· != '\n')).length
  length + oneOf ['\n'] (cs.drop length)

/-- The length of the longest operator that the text starts with. -/
def operatorLength (cs : List Char) : Option Nat :=
  (operators.find? fun op => op.toList.isPrefixOf cs).map String.length

/-- The sort of a word. -/
def wordKind (text : String) : TokenKind :=
  if keywords.contains text then .reserved
  else if constants.contains text then .literal
  else .word

/-- A piece of text: a gap, or a token of some sort. -/
inductive Piece where
  | gap
  | token (kind : TokenKind)
  | identifier

/-- The piece that starts with a character, and how many of the characters after it belong to it. -/
def piece (c : Char) (cs : List Char) : Option (Piece × Nat) :=
  if Text.isBlank c then some (.gap, (cs.takeWhile Text.isBlank).length)
  else if c == '/' && oneOf ['/'] cs == 1 then some (.gap, 1 + lineLength (cs.drop 1))
  else if c == '/' && oneOf ['*'] cs == 1 then
    (blockLength 0 (cs.drop 1)).map fun n => (.gap, 1 + n)
  else if "...".toList.isPrefixOf (c :: cs) then some (.token .symbol, 2)
  else if c == '@' then some (.token .symbol, 0)
  else if c == '.' && (cs.headD ' ').isDigit then
    (decimalLength (c :: cs)).map fun n => (.token .literal, n - 1)
  else if separators.contains c then some (.token .symbol, 0)
  else if c == Char.ofNat 0x22 || c == Char.ofNat 0x27 then
    (literalLength c .plain 0 cs).map fun n => (.token .literal, n)
  else if c.isDigit then (numberLength (c :: cs)).map fun n => (.token .literal, n - 1)
  else if isIdentifierStart c then some (.identifier, (cs.takeWhile isIdentifierPart).length)
  else (operatorLength (c :: cs)).map fun n => (.token .symbol, n - 1)

theorem isNameChar_of_isIdentifierPart (c : Char) (h : isIdentifierPart c = true) :
    isNameChar c = true := by
  have hblank : Text.isBlank c = false :=
    Text.isBlank_eq_false_of_blankCodes (by decide +kernel) h
  have hangle : c ≠ '<' ∧ c ≠ '>' := by
    constructor <;> rintro rfl <;> exact absurd h (by decide)
  simp [isNameChar, hblank, hangle]

/-- The token that a piece makes. -/
def Piece.token? (p : Piece) (text : List Char) (line : Nat) : Option Token :=
  let token (kind : TokenKind) : Token :=
    .ofChars isIdentifierPart isNameChar_of_isIdentifierPart kind text line
  match p with
  | .gap => none
  | .token kind => some (token kind)
  | .identifier => some (token (wordKind (String.ofList text)))

/-- The lines that a piece ends. Line feeds inside a literal do not count. -/
def Piece.lineEnds (p : Piece) (text : List Char) : Nat :=
  match p with
  | .gap => text.count '\n'
  | _ => 0

/-- The tokens of decoded text from the given line on, or `none` where no token fits. -/
def tokensFrom (line : Nat) : List Char → Option (List Token)
  | [] => some []
  | c :: cs =>
    match piece c cs with
    | none => none
    | some (p, more) =>
      let text := c :: cs.take more
      match tokensFrom (line + p.lineEnds text) (cs.drop more) with
      | none => none
      | some tokens => some ((p.token? text line).toList ++ tokens)
termination_by cs => cs.length
decreasing_by simp only [List.length_cons, List.length_drop]; omega

/-- The tokens of a text. -/
def tokens (text : String) : Option (List Token) := do
  tokensFrom 1 (← decodeEscapes [] text.toList)

end JavaAtlas.Java.Classic
