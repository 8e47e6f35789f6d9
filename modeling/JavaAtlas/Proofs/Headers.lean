import JavaAtlas.Proofs.ClassicReads
import JavaAtlas.Proofs.ModernUnits

/-! The header of a text, its package and its imports, laid out with any gaps between the words. The
older grammar reports a name as its segments with points between them. The current one reports the
text of the name, gaps and all. -/

namespace JavaAtlas.Java

open Reader Lexeme

/-! ### Layout -/

/-- A point and the segment behind it, with the gaps in front of each. -/
structure LaidSegment where
  before : List Gap
  after : List Gap
  text : String

def LaidSegment.lexemes (s : LaidSegment) : List Lexeme := [⟨s.before, "."⟩, ⟨s.after, s.text⟩]

structure LaidName where
  gaps : List Gap
  first : String
  more : List LaidSegment

namespace LaidName

def lexemes (n : LaidName) : List Lexeme := ⟨n.gaps, n.first⟩ :: n.more.flatMap LaidSegment.lexemes

/-- The segments of the name with points between them. -/
def joined (n : LaidName) : String := ".".intercalate (n.first :: n.more.map LaidSegment.text)

/-- The text of the name, without the gaps in front of it. -/
def written (n : LaidName) : String :=
  n.first ++ String.join (n.more.map fun s =>
    String.join (s.before.map Gap.text) ++ "." ++ (String.join (s.after.map Gap.text) ++ s.text))

/-- No gap stands inside the name. -/
def Tight (n : LaidName) : Prop := ∀ s ∈ n.more, s.before = [] ∧ s.after = []

/-- The segments are words that the older grammar does not reserve. -/
def Named (n : LaidName) : Prop :=
  ∀ s ∈ n.first :: n.more.map LaidSegment.text,
    isPlainWord s = true ∧ s ∉ Classic.keywords ∧ s ∉ Classic.constants

instance (n : LaidName) : Decidable n.Tight := inferInstanceAs (Decidable (∀ s ∈ _, _))

instance (n : LaidName) : Decidable n.Named := inferInstanceAs (Decidable (∀ s ∈ _, _))

end LaidName

structure LaidImport where
  gaps : List Gap
  static : Option (List Gap)
  name : LaidName
  star : Option (List Gap × List Gap)
  close : List Gap

namespace LaidImport

def lexemes (i : LaidImport) : List Lexeme :=
  ⟨i.gaps, "import"⟩ :: ((i.static.toList.map fun gaps => ⟨gaps, "static"⟩) ++ (i.name.lexemes ++
    ((i.star.toList.flatMap fun gaps => [⟨gaps.1, "."⟩, ⟨gaps.2, "*"⟩]) ++ [⟨i.close, ";"⟩])))

/-- The import, with its name in some spelling. -/
def declared (spelled : LaidName → String) (i : LaidImport) : ImportDecl :=
  ⟨spelled i.name, i.static.isSome, i.star.isSome⟩

end LaidImport

structure LaidPackage where
  gaps : List Gap
  name : LaidName
  close : List Gap

def LaidPackage.lexemes (p : LaidPackage) : List Lexeme :=
  ⟨p.gaps, "package"⟩ :: (p.name.lexemes ++ [⟨p.close, ";"⟩])

structure Header where
  package : Option LaidPackage
  imports : List LaidImport

namespace Header

def lexemes (h : Header) : List Lexeme :=
  h.package.toList.flatMap LaidPackage.lexemes ++ h.imports.flatMap LaidImport.lexemes

def names (h : Header) : List LaidName :=
  (h.package.toList.map LaidPackage.name) ++ h.imports.map LaidImport.name

/-- The name of the package in some spelling. -/
def packageName (spelled : LaidName → String) (h : Header) : String :=
  (h.package.map fun p => spelled p.name).getD ""

def importDecls (spelled : LaidName → String) (h : Header) : List ImportDecl :=
  h.imports.map (LaidImport.declared spelled)

/-- A text that starts with the header. -/
def text (h : Header) (rest : List Char) : String := String.ofList (render h.lexemes ++ rest)

end Header

/-! ### Tokens -/

section Tokens

variable {g : Grammar} {line : Nat} {k : List Token}

theorem tokens_append (line : Nat) (ls more : List Lexeme) :
    tokens g line (ls ++ more) = tokens g line ls ++ tokens g (lineAfterAll line ls) more := by
  induction ls generalizing line with
  | nil => rfl
  | cons l ls ih => simp [tokens, lineAfterAll, ih]

theorem length_tokens (line : Nat) (ls : List Lexeme) : (tokens g line ls).length = ls.length := by
  induction ls generalizing line with
  | nil => rfl
  | cons l ls ih => simp [tokens, ih]

/-- Items that a step reads one after the other, on whatever lines they stand. -/
theorem Repeats.laid {α ι : Type} {step : Reader (Option α)} {print : ι → List Lexeme}
    {value : ι → α} {items : List ι} (line : Nat) (k : List Token) (hprint : ∀ i, print i ≠ [])
    (h : ∀ i ∈ items, ∀ line k, Reads step (tokens g line (print i) ++ k) (some (value i)) k) :
    Repeats step (tokens g line (items.flatMap print) ++ k) (items.map value) k := by
  induction items generalizing line with
  | nil => exact .nil
  | cons i items ih =>
    have hlength : 0 < (print i).length := List.length_pos_iff.mpr (hprint i)
    rw [List.flatMap_cons, tokens_append, List.append_assoc, List.map_cons]
    refine .cons (h i (by simp) _ _) ?_ (ih _ fun i' hi' => h i' (by simp [hi']))
    simp only [List.length_append, length_tokens]
    omega

theorem isWord_of_named {word : String} (h : isPlainWord word = true ∧ word ∉ Classic.keywords ∧
    word ∉ Classic.constants) (gaps : List Gap) (line : Nat) :
    ((⟨gaps, word⟩ : Lexeme).token g line).isWord = true := by
  rw [Token.isWord_iff]
  show kindOf g word = .word
  unfold kindOf
  rw [if_pos h.1]
  cases g with
  | classic => simp [Classic.wordKind, h.2.1, h.2.2]
  | modern => rfl

/-- A word that is not reserved is none of the keywords, and no mark. -/
theorem avoids_named {word : String} (h : isPlainWord word = true ∧ word ∉ Classic.keywords ∧
    word ∉ Classic.constants) (gaps : List Gap) {words : List String}
    (hwords : words ⊆ "*" :: Classic.keywords) :
    Avoids words ((⟨gaps, word⟩ : Lexeme).token g line :: k) := by
  refine Avoids.cons.mpr fun hmem => ?_
  rcases List.mem_cons.mp (hwords hmem) with hstar | hkeyword
  · have hplain := h.1
    rw [show word = "*" from hstar] at hplain
    exact absurd hplain (by decide)
  · exact h.2.1 hkeyword

end Tokens

/-! ### Reading -/

section Reading

variable {line : Nat} {k : List Token}

theorem LaidName.Named.more {n : LaidName} (h : n.Named) {s : LaidSegment} (hs : s ∈ n.more) :
    isPlainWord s.text = true ∧ s.text ∉ Classic.keywords ∧ s.text ∉ Classic.constants :=
  h _ (List.mem_cons_of_mem _ (List.mem_map_of_mem hs))

/-- The word `static` of an import, which may be left out. -/
theorem reads_laidStatic {g : Grammar} (static : Option (List Gap)) {n : LaidName} (h : n.Named) :
    Reads (try1 "static") (Lexeme.tokens g line ((static.toList.map fun gaps => ⟨gaps, "static"⟩) ++
        n.lexemes) ++ k) static.isSome
      (Lexeme.tokens g (lineAfterAll line (static.toList.map fun gaps => ⟨gaps, "static"⟩))
        n.lexemes ++ k) := by
  cases static with
  | none =>
    have hfirst : Avoids ["static"] (Lexeme.tokens g line n.lexemes ++ k) :=
      avoids_named (h n.first (by simp)) n.gaps (by decide)
    exact .notTry1 hfirst (by simp)
  | some gaps => exact .try1 rfl

namespace Classic

theorem reads_laidName {n : LaidName} (h : n.Named) (hk : Avoids ["."] k) :
    Reads qualifiedName (Lexeme.tokens .classic line n.lexemes ++ k) n.joined k := by
  have hstep : ∀ s ∈ n.more, ∀ line k, Reads (do
      if ← try1 "." then return some (← identifier) else return none)
      (Lexeme.tokens .classic line s.lexemes ++ k) (some s.text) k := fun s hs line k =>
    .ifTrue (.try1 rfl) (.bind (.identifier (isWord_of_named (h.more hs) _ _)) .pure)
  have hmore := Repeats.laid (lineAfter line ⟨n.gaps, n.first⟩) k (by simp [LaidSegment.lexemes])
    hstep
  exact .bind (.bind (.identifier (isWord_of_named (h _ (by simp)) _ _))
    (.bind (.repeated hmore (.ifFalse (.notTry1 hk (by simp)) .pure)) .pure)) .pure

theorem reads_laidImport {i : LaidImport} (h : i.name.Named) :
    Reads importDeclaration (Lexeme.tokens .classic line i.lexemes ++ k)
      (i.declared LaidName.joined) k := by
  have hstep : ∀ s ∈ i.name.more, ∀ line k, Reads (do
      if ← nextAll [".", "*"] then return none
      if ← try1 "." then return some (← identifier) else return none)
      (Lexeme.tokens .classic line s.lexemes ++ k) (some s.text) k := by
    intro s hs line k
    have hnext : Avoids ["*"] ((⟨s.after, s.text⟩ : Lexeme).token .classic (lineAfter (lineAfter line
        ⟨s.before, "."⟩) ⟨s.after, s.text⟩) :: k) :=
      avoids_named (h.more hs) s.after (by decide)
    exact .ifFalse (.sees (fits_second hnext (by simp [Token.is])))
      (.ifTrue (.try1 rfl) (.bind (.identifier (isWord_of_named (h.more hs) _ _)) .pure))
  obtain ⟨gaps, static, name, star, close⟩ := i
  simp only [LaidImport.lexemes, ← List.append_assoc]
  rw [Lexeme.tokens, tokens_append, tokens_append, List.cons_append, List.append_assoc,
    List.append_assoc]
  refine .bind (.expect rfl) (.bind (reads_laidStatic static h) ?_)
  rw [LaidName.lexemes, Lexeme.tokens, List.cons_append]
  refine .bind (.identifier (isWord_of_named (h _ (by simp)) _ _)) ?_
  have hmore := fun k => Repeats.laid (lineAfter (lineAfterAll (lineAfter line ⟨gaps, "import"⟩)
    (static.toList.map fun gaps => ⟨gaps, "static"⟩)) ⟨name.gaps, name.first⟩) k
      (by simp [LaidSegment.lexemes]) hstep
  cases star with
  | some gaps =>
    exact .bind (.repeated (hmore _) (.ifTrue (.sees rfl) .pure)) (.bind (.tryAll rfl rfl)
      (.bind (.expect rfl) .pure))
  | none =>
    have hend : ∀ line, Avoids ["."] ((⟨close, ";"⟩ : Lexeme).token .classic line :: k) :=
      fun line => Avoids.cons.mpr (by decide : ";" ∉ ["."])
    exact .bind (.repeated (hmore _) (.ifFalse (.notNextAll (hend _) (by simp))
      (.ifFalse (.notTry1 (hend _) (by simp)) .pure))) (.bind (.notTryAll (hend _) (by simp))
        (.bind (.expect rfl) .pure))

end Classic

theorem isWord_laidMark {g : Grammar} {text : String} (h : text ∈ marks) (gaps : List Gap)
    (line : Nat) : ((⟨gaps, text⟩ : Lexeme).token g line).isWord = false := by
  have hkind : ((⟨gaps, text⟩ : Lexeme).token g line).kind = .symbol := by
    show kindOf g text = .symbol
    simp [kindOf, isPlainWord_eq_false_of_mem_marks h]
  rw [Token.isWord, hkind]
  rfl

namespace Classic

theorem reads_laidImports {imports : List LaidImport} (h : ∀ i ∈ imports, i.name.Named)
    (hk : Avoids ["import"] k) :
    Reads (repeated (whenNext "import" importDeclaration))
      (Lexeme.tokens .classic line (imports.flatMap LaidImport.lexemes) ++ k)
      (imports.map (LaidImport.declared LaidName.joined)) k :=
  .repeated (Repeats.laid line k (by simp [LaidImport.lexemes]) fun i hi _ _ =>
    .whenNext rfl (reads_laidImport (h i hi))) (.notWhenNext hk)

theorem outcome_laidPackage (table : Table) {p : LaidPackage} (h : p.name.Named) :
    outcome (packageDeclaration table) ⟨Lexeme.tokens .classic line p.lexemes ++ k, []⟩ =
      (.ok (some p.name.joined), ⟨k, []⟩) := by
  have hend : ∀ line, Avoids ["."] ((⟨p.close, ";"⟩ : Lexeme).token .classic line :: k) :=
    fun line => Avoids.cons.mpr (by decide : ";" ∉ ["."])
  rw [LaidPackage.lexemes, Lexeme.tokens, tokens_append, List.cons_append, List.append_assoc]
  exact outcome_packageDeclaration table rfl (reads_laidName h (hend _)) rfl

end Classic

namespace Modern

/-- The text of a name holds the gaps inside it. -/
theorem sourceText_laid (n : LaidName) (line : Nat) :
    sourceText (Lexeme.tokens .modern line n.lexemes) = n.written := by
  have hmore : ∀ line, String.join ((Lexeme.tokens .modern line
      (n.more.flatMap LaidSegment.lexemes)).map Token.spread) =
      String.join (n.more.map fun s => String.join (s.before.map Gap.text) ++ "." ++
        (String.join (s.after.map Gap.text) ++ s.text)) := by
    induction n.more with
    | nil => exact fun _ => rfl
    | cons s more ih =>
      intro line
      rw [List.flatMap_cons, tokens_append, List.map_append, List.map_cons, String.join_append, ih,
        String.join_cons]
      simp [Lexeme.tokens, LaidSegment.lexemes, Token.spread, Lexeme.token, String.append_assoc]
  rw [LaidName.lexemes, Lexeme.tokens, sourceText, hmore]
  rfl

theorem reads_laidName {n : LaidName} (h : n.Named)
    (hk : fits [Token.is ".", Token.isWord] k = false) :
    Reads nameText (Lexeme.tokens .modern line n.lexemes ++ k) n.written k := by
  have hstep : ∀ s ∈ n.more, ∀ line k, Reads (do
      if ← sees [Token.is ".", Token.isWord] then
        expect "."
        return some (← identifier)
      else return none) (Lexeme.tokens .modern line s.lexemes ++ k) (some s.text) k := by
    intro s hs line k
    have hword := isWord_of_named (g := .modern) (h.more hs) s.after
    have hfits : fits [Token.is ".", Token.isWord] (Lexeme.tokens .modern line s.lexemes ++ k) =
        true := by
      simp only [LaidSegment.lexemes, Lexeme.tokens, List.cons_append, fits, hword]
      rfl
    exact .ifTrue (.sees hfits) (.bind (.expect rfl) (.bind (.identifier (hword _)) .pure))
  have hmore := Repeats.laid (lineAfter line ⟨n.gaps, n.first⟩) k (by simp [LaidSegment.lexemes])
    hstep
  have hname : Reads qualifiedName (Lexeme.tokens .modern line n.lexemes ++ k) () k :=
    .bind (.identifier (isWord_of_named (h _ (by simp)) _ _))
      (.bind (.repeated hmore (.ifFalse (.sees hk) .pure)) .pure)
  rw [← sourceText_laid n line]
  exact .bind (reads_withTokens hname) .pure

theorem reads_laidImport {i : LaidImport} (h : i.name.Named) :
    Reads importDeclaration (Lexeme.tokens .modern line i.lexemes ++ k)
      (i.declared LaidName.written) k := by
  obtain ⟨gaps, static, name, star, close⟩ := i
  simp only [LaidImport.lexemes, ← List.append_assoc]
  rw [Lexeme.tokens, tokens_append, tokens_append, List.cons_append, List.append_assoc,
    List.append_assoc]
  refine .bind (.expect rfl) (.bind (reads_laidStatic static h) ?_)
  cases star with
  | some gaps =>
    have hstar : ∀ t line k, fits [Token.is ".", Token.isWord]
        (t :: (⟨gaps.2, "*"⟩ : Lexeme).token .modern line :: k) = false := by
      intro t line k
      have hword := isWord_laidMark (g := .modern) (by decide : "*" ∈ marks) gaps.2 line
      simp [fits, hword]
    exact .bind (reads_laidName h (hstar _ _ _)) (.bind (.tryAll rfl rfl) (.bind (.expect rfl) .pure))
  | none =>
    have hend : ∀ line, Avoids ["."] ((⟨close, ";"⟩ : Lexeme).token .modern line :: k) :=
      fun line => Avoids.cons.mpr (by decide : ";" ∉ ["."])
    exact .bind (reads_laidName h ((hend _).fits (by simp [Token.is])))
      (.bind (.notTryAll (hend _) (by simp)) (.bind (.expect rfl) .pure))

theorem reads_laidPackage (table : Table) {p : LaidPackage} (h : p.name.Named) :
    Reads (packageDeclaration table) (Lexeme.tokens .modern line p.lexemes ++ k) p.name.written
      k := by
  have hat : Avoids ["@"] (Lexeme.tokens .modern line p.lexemes ++ k) :=
    Avoids.cons.mpr (by decide : "package" ∉ ["@"])
  have hend : ∀ line, Avoids ["."] ((⟨p.close, ";"⟩ : Lexeme).token .modern line :: k) :=
    fun line => Avoids.cons.mpr (by decide : ";" ∉ ["."])
  refine .bind (reads_annotations table hat (by simp)) ?_
  rw [LaidPackage.lexemes, Lexeme.tokens, tokens_append, List.cons_append, List.append_assoc]
  exact .bind (.expect rfl) (.bind (reads_laidName h ((hend _).fits (by simp [Token.is])))
    (.bind (.expect rfl) .pure))

end Modern

end Reading

end JavaAtlas.Java
