import JavaAtlas.Java.Reader
import JavaAtlas.Java.Modern.Lexer

/-! Words of current Java. Every word may be an identifier; it is a keyword only at a place where
the grammar has a use for that keyword. So each place comes with the words that are keywords
there. -/

namespace JavaAtlas.Java.Modern

/-- The words for types that no class declares. -/
def typeWords : List String := "void" :: Token.basicTypes

/-- Keywords that are also names of variables and methods, though not of types. -/
def softWords : List String := ["module", "open", "record", "sealed", "with", "yield"]

def modifierWords : List String :=
  ["abstract", "default", "final", "native", "private", "protected", "public", "sealed", "static",
    "strictfp", "synchronized", "transient", "volatile"]

/-- The words that start an expression as keywords, soft ones apart. -/
def valueWords : List String :=
  typeWords ++ ["false", "new", "null", "super", "switch", "this", "true"]

/-- The keywords at the start of an expression. -/
def operandWords : List String := valueWords ++ softWords

/-- The keywords where an expression or a parameter may start. -/
def openingWords : List String := operandWords ++ modifierWords

/-- The keywords at the start of a statement. -/
def statementWords : List String :=
  openingWords ++
    ["assert", "break", "class", "continue", "do", "enum", "for", "if", "import", "interface",
      "package", "return", "throw", "try", "while"]

/-- The keywords where something could be a declaration or an expression: at its start, and after a
single name there. -/
structure Keywords where
  first : List String := []
  second : List String := []

/-- The keywords at the start of a statement. -/
def statementKeywords : Keywords := ⟨statementWords, ["instanceof"]⟩

/-- The keywords at the start of a loop's control. -/
def loopKeywords : Keywords := ⟨openingWords, ["instanceof", "when"]⟩

/-- The keywords at the start of a resource. -/
def resourceKeywords : Keywords := ⟨openingWords.erase "switch", []⟩

/-- The keywords at the start of a lambda's parameters. -/
def lambdaKeywords : Keywords := ⟨openingWords, ["instanceof"]⟩

/-- The keywords at the start of a label of a switch. -/
def labelKeywords : Keywords := ⟨operandWords, ["instanceof", "when"]⟩

open Reader

/-- A word that is none of these. -/
def wordExcept (words : List String) : Reader String := do
  return (← take (Token.isWordExcept words)).text

/-- Takes a token that starts with some letters of a word. The rest of the word is a token of its
own. -/
def takeLetters (letters : String) : Reader Unit := do
  match ← ahead with
  | t :: ts =>
    match t.text.toList.drop letters.length with
    | [] => goOnFrom ts
    | c :: _ => if isWordStart c then goOnFrom (t.dropFirst letters.length :: ts) else refuse
  | [] => refuse

/-- The mark of an annotation type comes next. Nothing may stand inside it, and no blank need
follow it. -/
def nextAnnotationType : Reader Bool := sees [Token.is "@", Token.continues "interface"]

def annotationTypeMark : Reader Unit := do
  expect "@"
  takeLetters "interface"

/-- The modifier with a hyphen comes next. Nothing may stand inside it, and no blank need follow
it. -/
def nextHyphenated : Reader Bool :=
  sees [Token.is "non", fun t => t.is "-" && t.isAdjacent, Token.continues "sealed"]

def hyphenated : Reader String := do
  expect "non"
  expect "-"
  takeLetters "sealed"
  return "non-sealed"

end JavaAtlas.Java.Modern
