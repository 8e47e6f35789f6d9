import JavaAtlas.Text.Blank

/-! Tokens of Java text. -/

namespace JavaAtlas.Java

def leftBrace : String := "\x7b"

def rightBrace : String := "\x7d"

/-- What may stand between two tokens. -/
inductive Gap where
  | blanks (text : String)
  | comment (text : String)
deriving Repr, BEq, DecidableEq

namespace Gap

def text : Gap → String
  | .blanks t => t
  | .comment t => t

def comment? : Gap → Option String
  | .blanks _ => none
  | .comment t => some t

end Gap

/-- The sorts of tokens. A word may serve as an identifier, a reserved word may not. -/
inductive TokenKind where
  | word
  | reserved
  | literal
  | symbol
  /-- A part of a string between the expressions that stand inside it. -/
  | fragment
deriving Repr, BEq, DecidableEq

/-- One if the text starts with one of these characters. -/
def oneOf (marks : List Char) (cs : List Char) : Nat :=
  match cs with
  | c :: _ => if marks.contains c then 1 else 0
  | [] => 0

/-- The length of the rest of a comment up to its closing mark. -/
def blockLength (length : Nat) : List Char → Option Nat
  | [] => none
  | '*' :: '/' :: _ => some (length + 2)
  | _ :: cs => blockLength (length + 1) cs

/-- A character that names may hold: no blank, and no bracket of type arguments. -/
def isNameChar (c : Char) : Bool := !Text.isBlank c && c != '<' && c != '>'

/-- A token with the line it starts on, and the gaps between the token before it and itself where
the reader asks for them. A word is spelled with characters of names. -/
structure Token where
  kind : TokenKind
  text : String
  line : Nat
  gaps : List Gap := []
  spelled : kind = .word → text.toList.all isNameChar = true
deriving Repr

namespace Token

/-- A token of some sort with the given characters. A word ends where its characters, a class of
those that names may hold, end. -/
def ofChars (isPart : Char → Bool) (h : ∀ c, isPart c = true → isNameChar c = true)
    (kind : TokenKind) (chars : List Char) (line : Nat) (gaps : List Gap := []) : Token :=
  if hk : kind = .word then
    { kind, text := String.ofList (chars.takeWhile isPart), line, gaps
      spelled := fun _ => by
        rw [String.toList_ofList, List.all_eq_true]
        exact fun c hc => h c (List.all_eq_true.mp (List.all_takeWhile ..) c hc) }
  else { kind, text := String.ofList chars, line, gaps, spelled := fun hw => absurd hw hk }

/-- The token without its first characters, right behind them. -/
def dropFirst (n : Nat) (t : Token) : Token :=
  { t with
    text := String.ofList (t.text.toList.drop n), gaps := []
    spelled := fun hw => by
      rw [String.toList_ofList, List.all_eq_true]
      exact fun c hc => List.all_eq_true.mp (t.spelled hw) c (List.mem_of_mem_drop hc) }

/-- The token is spelled this way. No two sorts of tokens share a spelling. -/
def is (text : String) (t : Token) : Bool := t.text == text

def isWord (t : Token) : Bool := t.kind == .word

theorem isWord_iff {t : Token} : t.isWord = true ↔ t.kind = .word := by
  unfold isWord
  cases t.kind <;> decide

def isLiteral (t : Token) : Bool := t.kind == .literal

/-- The types that no class declares, `void` apart. -/
def basicTypes : List String :=
  ["boolean", "byte", "char", "double", "float", "int", "long", "short"]

def isBasicType (t : Token) : Bool := basicTypes.contains t.text

/-- The comments in front of the token. -/
def comments (t : Token) : List String := t.gaps.filterMap Gap.comment?

/-- Nothing stands between the token before and this one. -/
def isAdjacent (t : Token) : Bool := t.gaps.isEmpty

/-- The token is a word, and none of these. -/
def isWordExcept (words : List String) (t : Token) : Bool := t.isWord && !words.contains t.text

/-- The token is a word with these letters in front, right behind the token before. -/
def continues (letters : String) (t : Token) : Bool :=
  t.isWord && t.isAdjacent && letters.toList.isPrefixOf t.text.toList

/-- The token with all that stands between the token before it and itself. -/
def spread (t : Token) : String := String.join (t.gaps.map Gap.text) ++ t.text

end Token

/-- The text from the first of some tokens to the last. -/
def sourceText : List Token → String
  | [] => ""
  | t :: ts => t.text ++ String.join (ts.map Token.spread)

end JavaAtlas.Java
