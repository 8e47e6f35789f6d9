/-! Blanks: the white space that separates words, and the characters that end a line. Trimming,
splitting into words and splitting into lines are functions on lists of characters. -/

namespace JavaAtlas.Text

/-- White space: the separators of Unicode, the tabs and line ends of ASCII, the four information
separators U+001C to U+001F and the next-line control U+0085. -/
def isBlank (c : Char) : Bool :=
  let n := c.toNat
  (0x09 ≤ n && n ≤ 0x0d) || (0x1c ≤ n && n ≤ 0x20) || n == 0x85 || n == 0xa0 || n == 0x1680 ||
    (0x2000 ≤ n && n ≤ 0x200a) || n == 0x2028 || n == 0x2029 || n == 0x202f || n == 0x205f ||
    n == 0x3000

/-- The code points of the blanks. -/
def blankCodes : List Nat :=
  [0x9, 0xa, 0xb, 0xc, 0xd, 0x1c, 0x1d, 0x1e, 0x1f, 0x20, 0x85, 0xa0, 0x1680, 0x2000, 0x2001,
    0x2002, 0x2003, 0x2004, 0x2005, 0x2006, 0x2007, 0x2008, 0x2009, 0x200a, 0x2028, 0x2029, 0x202f,
    0x205f, 0x3000]

theorem mem_blankCodes {c : Char} (h : isBlank c = true) : c.toNat ∈ blankCodes := by
  simp only [isBlank, Bool.or_eq_true, Bool.and_eq_true, decide_eq_true_eq, beq_iff_eq] at h
  simp only [blankCodes, List.mem_cons, List.not_mem_nil]
  omega

/-- A class of characters without any of the blanks' code points has no blanks. -/
theorem isBlank_eq_false_of_blankCodes {p : Char → Bool}
    (hp : (blankCodes.all fun n => !p (Char.ofNat n)) = true) {c : Char} (hc : p c = true) :
    isBlank c = false := by
  cases hb : isBlank c with
  | false => rfl
  | true =>
    have hcode := List.all_eq_true.mp hp _ (mem_blankCodes hb)
    rw [Char.ofNat_toNat, hc] at hcode
    exact absurd hcode (by decide)

/-- The characters without the blanks in front. -/
def trimLeft (cs : List Char) : List Char := cs.dropWhile isBlank

/-- The characters without the blanks at the end. -/
def trimRight (cs : List Char) : List Char := (cs.reverse.dropWhile isBlank).reverse

/-- The characters without the blanks at both ends. -/
def trim (cs : List Char) : List Char := trimRight (trimLeft cs)

/-- A text without the blanks at both ends. -/
def trimmed (s : String) : String := String.ofList (trim s.toList)

/-- The maximal runs of characters that are no blanks; `word` is the run read so far. -/
def wordsFrom (word : List Char) : List Char → List (List Char)
  | [] => if word.isEmpty then [] else [word.reverse]
  | c :: cs =>
    if isBlank c then
      if word.isEmpty then wordsFrom [] cs else word.reverse :: wordsFrom [] cs
    else wordsFrom (c :: word) cs

/-- The words of a text. -/
def words (cs : List Char) : List (List Char) := wordsFrom [] cs

/-- A character that ends a line. A carriage return and the line feed after it are one line end. -/
def isLineEnd (c : Char) : Bool :=
  let n := c.toNat
  (0x0a ≤ n && n ≤ 0x0d) || (0x1c ≤ n && n ≤ 0x1e) || n == 0x85 || n == 0x2028 || n == 0x2029

/-- The lines of a text without their ends; `line` is the line read so far. -/
def linesFrom (line : List Char) : List Char → List (List Char)
  | [] => if line.isEmpty then [] else [line.reverse]
  | '\r' :: '\n' :: cs => line.reverse :: linesFrom [] cs
  | c :: cs => if isLineEnd c then line.reverse :: linesFrom [] cs else linesFrom (c :: line) cs

/-- The lines of a text. An end of line at the end of the text starts no further line. -/
def lines (cs : List Char) : List (List Char) := linesFrom [] cs

/-- The pieces between the occurrences of a separator; `piece` is the one read so far. -/
def splitFrom (sep : Char) (piece : List Char) : List Char → List (List Char)
  | [] => [piece.reverse]
  | c :: cs =>
    if c == sep then piece.reverse :: splitFrom sep [] cs
    else splitFrom sep (c :: piece) cs

/-- The pieces of a text between the occurrences of a separator: one more than there are
occurrences. -/
def splitAt (sep : Char) (cs : List Char) : List (List Char) := splitFrom sep [] cs

/-- The text with every line end of the two forms with a carriage return written as a line feed. -/
def unifyLineEnds : List Char → List Char
  | [] => []
  | '\r' :: '\n' :: cs => '\n' :: unifyLineEnds cs
  | '\r' :: cs => '\n' :: unifyLineEnds cs
  | c :: cs => c :: unifyLineEnds cs

end JavaAtlas.Text
