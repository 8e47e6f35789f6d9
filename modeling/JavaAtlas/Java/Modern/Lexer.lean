import JavaAtlas.Java.Modern.Literal
import JavaAtlas.Text.Identifier

/-! The tokens of current Java text. Every token keeps the blanks and comments in front of it,
because names are reported as they stand in the text. Words are not sorted into keywords and
identifiers: a word is a keyword only where the grammar asks for it. A string with expressions
inside it is a chain of fragments, with the tokens of the expressions between them. -/

namespace JavaAtlas.Java.Modern

/-- A character that a word may start with. -/
def isWordStart (c : Char) : Bool := Text.isIdentifierStart c || c == '_' || c == '$'

/-- A character that a word may go on with. -/
def isWordPart (c : Char) : Bool := Text.isIdentifierPart c || c == '$' || c == '\u00a2'

/-- The symbols, longest first. Closing angle brackets are read one by one, so that argument lists
can close. -/
def symbols : List String :=
  ["<<=", "...", "%=", "^=", "|=", "&=", "/=", "*=", "-=", "+=", "<<", "--", "++", "||", "&&", "!=",
    "<=", "==", "->", "::", "%", "^", "|", "&", "/", "*", "-", "+", ":", "?", "~", "!", "<", ">",
    "=", "(", ")", "\x7b", "\x7d", "[", "]", ";", ",", ".", "@"]

/-- The length of the longest symbol that the text starts with. -/
def symbolLength (cs : List Char) : Option Nat :=
  (symbols.find? fun s => s.toList.isPrefixOf cs).map String.length

/-- A piece of text: blanks, a comment, a token of some sort or the first part of a string. -/
inductive Piece where
  | blanks
  | comment
  | token (kind : TokenKind)
  | string (kind : StringKind)

/-- The piece that starts with a character, and how many of the characters after it belong to it. Of
a string that is its opening mark. -/
def piece (c : Char) (cs : List Char) : Option (Piece × Nat) :=
  if isSpace c then some (.blanks, (cs.takeWhile isSpace).length)
  else
    match commentLength (c :: cs) with
    | some n => some (.comment, n - 1)
    | none =>
      if c == quote then
        if cs.take 2 == [c, c] then some (.string .block, 2) else some (.string .line, 0)
      else if c == Char.ofNat 0x27 then
        (characterLength 0 cs).map fun n => (.token .literal, n)
      else if c.isDigit || (c == '.' && (cs.headD ' ').isDigit) then
        some (.token .literal, numberLength (c :: cs) - 1)
      else if isWordStart c then some (.token .word, (cs.takeWhile isWordPart).length)
      else (symbolLength (c :: cs)).map fun n => (.token .symbol, n - 1)

/-- A string around the expression that is being read, and the braces open in the expression. -/
structure Enclosing where
  kind : StringKind
  braces : Nat := 0

/-- The strings around what follows a token: braces open and close in the innermost one. -/
def afterToken (text : String) : List Enclosing → List Enclosing
  | [] => []
  | e :: es =>
    if text == leftBrace then { e with braces := e.braces + 1 } :: es
    else if text == rightBrace then { e with braces := e.braces - 1 } :: es
    else e :: es

/-- A token closes the expression inside a string. -/
def closesExpression (text : String) : List Enclosing → Option StringKind
  | e :: _ => if text == rightBrace && e.braces == 0 then some e.kind else none
  | [] => none

theorem isNameChar_of_isWordPart (c : Char) (h : isWordPart c = true) : isNameChar c = true := by
  have hblank : Text.isBlank c = false :=
    Text.isBlank_eq_false_of_blankCodes (by decide +kernel) h
  have hangle : c ≠ '<' ∧ c ≠ '>' := by
    constructor <;> rintro rfl <;> exact absurd h (by decide)
  simp [isNameChar, hblank, hangle]

/-- The token of some sort with the given characters. -/
def tokenOf (kind : TokenKind) (chars : List Char) (line : Nat) (gaps : List Gap) : Token :=
  .ofChars isWordPart isNameChar_of_isWordPart kind chars line gaps

/-- The tokens of a text from the given line on, after the gaps read so far, last one first, inside
the given strings, innermost first. -/
def tokensFrom (line : Nat) (gaps : List Gap) (outer : List Enclosing) :
    List Char → Option (List Token)
  | [] => some []
  | c :: cs =>
    match piece c cs with
    | none => none
    | some (p, more) =>
      let chars := c :: cs.take more
      let text := String.ofList chars
      let after := line + chars.count '\n'
      let rest := cs.drop more
      match p with
      | .blanks => tokensFrom after (.blanks text :: gaps) outer rest
      | .comment => tokensFrom after (.comment text :: gaps) outer rest
      | .string kind => do
        let part ← kind.part rest
        let inside := rest.take part.length
        let token :=
          tokenOf (if part.opens then .fragment else .literal) (chars ++ inside) line gaps.reverse
        let outer := if part.opens then ⟨kind, 0⟩ :: outer else outer
        let tokens ← tokensFrom (after + inside.count '\n') [] outer (rest.drop part.length)
        return token :: tokens
      | .token kind =>
        let token := tokenOf kind chars line gaps.reverse
        match closesExpression text outer with
        | none => do return token :: (← tokensFrom after [] (afterToken text outer) rest)
        | some string => do
          let part ← string.part rest
          let inside := rest.take part.length
          let fragment := tokenOf .fragment inside after []
          let outer := if part.opens then outer else outer.drop 1
          let tokens ← tokensFrom (after + inside.count '\n') [] outer (rest.drop part.length)
          return token :: fragment :: tokens
termination_by cs => cs.length
decreasing_by all_goals simp only [List.length_cons, List.length_drop]; omega

/-- The tokens of a text. A byte order mark in front of it is no part of it, and the null character
is part of no token. -/
def tokens (text : String) : Option (List Token) :=
  let cs := text.toList
  if cs.contains '\x00' then none
  else tokensFrom 1 [] [] (if cs.head? == some '\ufeff' then cs.drop 1 else cs)

end JavaAtlas.Java.Modern
