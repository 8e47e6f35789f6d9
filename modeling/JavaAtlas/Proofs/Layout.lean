import JavaAtlas.Grammar
import JavaAtlas.Proofs.Names
import Mathlib.Data.List.TakeWhile

/-! Text that is laid out word by word. A lexeme is a word or a mark with the gaps in front of it:
runs of blanks and comments. Both lexers cut such text at the lexemes, and only there, where no
lexeme runs into what follows it. -/

namespace JavaAtlas.Java

/-- A character of ASCII that a word may start with. -/
def isPlainStart (c : Char) : Bool := c.isAlpha || c == '_' || c == '$'

/-- A character of ASCII that a word may hold. -/
def isPlainPart (c : Char) : Bool := isPlainStart c || c.isDigit

/-- A word of ASCII: an identifier, a keyword or a constant. -/
def isPlainWord (word : String) : Bool :=
  match word.toList with
  | [] => false
  | c :: cs => isPlainStart c && cs.all isPlainPart

/-- The marks of declarations. -/
def marks : List String := ["(", ")", leftBrace, rightBrace, "[", "]", ";", ",", ".", "...", "*"]

/-- A character that goes on a word in some grammar. -/
def isPart (c : Char) : Bool := Classic.isIdentifierPart c || Modern.isWordPart c

/-- A statement about the characters of a text is decided on the text, not on all characters. -/
instance (priority := 2000) decidableForallChars {p : Char → Prop} [DecidablePred p]
    (cs : List Char) : Decidable (∀ c ∈ cs, p c) :=
  List.decidableBAll p cs

instance (priority := 2000) decidableForallChar {p : Char → Prop} [DecidablePred p] :
    (o : Option Char) → Decidable (∀ c ∈ o, p c)
  | none => .isTrue fun _ h => nomatch h
  | some c => decidable_of_iff (p c) ⟨fun h _ hd => Option.some.inj hd ▸ h, fun h => h c rfl⟩

structure Lexeme where
  gaps : List Gap
  text : String
deriving DecidableEq

namespace Lexeme

def gapChars (gaps : List Gap) : List Char := gaps.flatMap fun g => g.text.toList

def chars (l : Lexeme) : List Char := gapChars l.gaps ++ l.text.toList

/-- The text of lexemes one after the other. -/
def render (ls : List Lexeme) : List Char := ls.flatMap chars

@[simp] theorem render_nil : render [] = [] := rfl

@[simp] theorem render_cons (l : Lexeme) (ls : List Lexeme) :
    render (l :: ls) = l.chars ++ render ls := rfl

end Lexeme

/-! ### Characters -/

theorem toNat_lt_of_isPlainPart {c : Char} (h : isPlainPart c = true) : c.toNat < 128 := by
  simp only [isPlainPart, isPlainStart, Bool.or_eq_true, beq_iff_eq] at h
  rcases h with ((halpha | rfl) | rfl) | hdigit
  · exact Text.toNat_lt_of_isAlphanum (by simp [Char.isAlphanum, halpha])
  · decide
  · decide
  · exact Text.toNat_lt_of_isAlphanum (by simp [Char.isAlphanum, hdigit])

theorem isPlainPart_of_isPlainStart {c : Char} (h : isPlainStart c = true) :
    isPlainPart c = true := by
  simp [isPlainPart, h]

/-- A statement about the characters of plain words, checked on the code points of ASCII. -/
theorem forall_plain {p q : Char → Bool} (hp : ∀ c, p c = true → isPlainPart c = true)
    (h : ((List.range 128).all fun n => !p (Char.ofNat n) || q (Char.ofNat n)) = true) {c : Char}
    (hc : p c = true) : q c = true := by
  have hcode := List.all_eq_true.mp h c.toNat (List.mem_range.mpr (toNat_lt_of_isPlainPart (hp c hc)))
  rw [Char.ofNat_toNat, hc] at hcode
  simpa using hcode

theorem isNameChar_of_isPlainPart {c : Char} (h : isPlainPart c = true) : isNameChar c = true :=
  forall_plain (p := isPlainPart) (fun _ h => h) (by decide) h

theorem isIdentifierPart_of_isPlainPart {c : Char} (h : isPlainPart c = true) :
    Classic.isIdentifierPart c = true :=
  forall_plain (p := isPlainPart) (fun _ h => h) (by decide) h

theorem isWordPart_of_isPlainPart {c : Char} (h : isPlainPart c = true) :
    Modern.isWordPart c = true :=
  forall_plain (p := isPlainPart) (fun _ h => h) (by decide) h

/-- A plain word with its first character apart. -/
theorem exists_of_isPlainWord {word : String} (h : isPlainWord word = true) :
    ∃ c cs, word.toList = c :: cs ∧ isPlainStart c = true ∧ ∀ d ∈ cs, isPlainPart d = true := by
  unfold isPlainWord at h
  split at h
  · simp at h
  · rename_i c cs hword
    simp only [Bool.and_eq_true, List.all_eq_true] at h
    exact ⟨c, cs, hword, h.1, h.2⟩

theorem isPlainPart_of_mem {word : String} (h : isPlainWord word = true) {c : Char}
    (hc : c ∈ word.toList) : isPlainPart c = true := by
  obtain ⟨d, ds, hword, hd, hds⟩ := exists_of_isPlainWord h
  rw [hword] at hc
  rcases List.mem_cons.mp hc with rfl | hc
  · exact isPlainPart_of_isPlainStart hd
  · exact hds c hc

theorem isPlainWord_eq_false_of_mem_marks {word : String} (h : word ∈ marks) :
    isPlainWord word = false := by
  have hall : (marks.all fun m => !isPlainWord m) = true := by decide
  simpa using List.all_eq_true.mp hall word h

/-- A run of characters of a class ends where it is followed by none of them. -/
theorem takeWhile_append_stop {p : Char → Bool} {cs next : List Char}
    (hcs : ∀ c ∈ cs, p c = true) (hnext : ∀ c ∈ next.head?, p c = false) :
    (cs ++ next).takeWhile p = cs := by
  rw [List.takeWhile_append_of_pos hcs]
  cases next with
  | nil => simp
  | cons c next => simp [hnext c (by simp)]

/-! ### Tokens -/

/-- The sort of a lexeme. Only the older grammar has reserved words. -/
def kindOf (g : Grammar) (text : String) : TokenKind :=
  if isPlainWord text then
    match g with
    | .classic => Classic.wordKind text
    | .modern => .word
  else .symbol

theorem isPlainWord_of_kindOf {g : Grammar} {text : String} (h : kindOf g text = .word) :
    isPlainWord text = true := by
  unfold kindOf at h
  split at h
  · assumption
  · simp at h

namespace Lexeme

/-- The token of a lexeme on a line. The older grammar keeps no gaps. -/
def token (g : Grammar) (line : Nat) (l : Lexeme) : Token where
  kind := kindOf g l.text
  text := l.text
  line := line
  gaps := match g with
    | .classic => []
    | .modern => l.gaps
  spelled h := by
    have hword := isPlainWord_of_kindOf h
    exact List.all_eq_true.mpr fun c hc => isNameChar_of_isPlainPart (isPlainPart_of_mem hword hc)

/-- The line after the gaps of a lexeme. -/
def lineAfter (line : Nat) (l : Lexeme) : Nat := line + (gapChars l.gaps).count '\n'

/-- The tokens of lexemes from a line on. -/
def tokens (g : Grammar) (line : Nat) : List Lexeme → List Token
  | [] => []
  | l :: ls => l.token g (l.lineAfter line) :: tokens g (l.lineAfter line) ls

/-- The line after all lexemes. -/
def lineAfterAll (line : Nat) (ls : List Lexeme) : Nat := ls.foldl lineAfter line

/-- The gaps are cut as a reader of text cuts them: no two runs of blanks meet, a comment in
brackets has only its last bracket closing, and the end of a line follows any other. -/
inductive Laid : List Gap → Prop
  | nil : Laid []
  | blanks {b : String} {gaps : List Gap} (some : b.toList ≠ [])
      (space : ∀ c ∈ b.toList, Modern.isSpace c = true)
      (apart : ∀ g ∈ gaps.head?, g.comment?.isSome) (more : Laid gaps) :
      Laid (.blanks b :: gaps)
  | block {t : String} {body : List Char} {gaps : List Gap}
      (opened : t.toList = '/' :: '*' :: (body ++ ['*', '/']))
      (closed : blockLength 0 (body ++ ['*', '/']) = some (body.length + 2))
      (more : Laid gaps) : Laid (.comment t :: gaps)
  | line {t b : String} {body bs : List Char} {gaps : List Gap}
      (opened : t.toList = '/' :: '/' :: body) (inside : '\n' ∉ body)
      (closed : b.toList = '\n' :: bs) (more : Laid (.blanks b :: gaps)) :
      Laid (.comment t :: .blanks b :: gaps)

/-- The text of a lexeme ends where it meets what follows. -/
inductive Ends : String → List Char → Prop
  | word {text : String} {next : List Char} (plain : isPlainWord text = true)
      (stop : ∀ c ∈ next.head?, isPart c = false) : Ends text next
  | mark {text : String} {next : List Char} (mark : text ∈ marks)
      (point : text = "." → ∀ c ∈ next.head?, c ≠ '.' ∧ c.isDigit = false)
      (star : text = "*" → ∀ c ∈ next.head?, c ≠ '=') : Ends text next

/-- No lexeme runs into what follows it. -/
def Fit : List Lexeme → List Char → Prop
  | [], _ => True
  | l :: ls, rest => Laid l.gaps ∧ Ends l.text (render ls ++ rest) ∧ Fit ls rest

end Lexeme

end JavaAtlas.Java
