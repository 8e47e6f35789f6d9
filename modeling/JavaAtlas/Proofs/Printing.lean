import JavaAtlas.Proofs.Lexing
import JavaAtlas.Proofs.Names

/-! Declarations printed as Java text, on one line and with single spaces, and the declarations that
can be printed so. -/

namespace JavaAtlas.Java

/-- A word or a mark of printed text, behind a space or right behind the word before it. -/
structure Word where
  space : Bool
  text : String
deriving DecidableEq

namespace Word

def lexeme (w : Word) : Lexeme := ⟨if w.space then [.blanks " "] else [], w.text⟩

/-- The token of a word. Printed text has one line. -/
def token (g : Grammar) (w : Word) : Token := w.lexeme.token g 1

@[simp] theorem text_token (g : Grammar) (w : Word) : (w.token g).text = w.text := rfl

@[simp] theorem line_token (g : Grammar) (w : Word) : (w.token g).line = 1 := rfl

end Word

def spaced (text : String) : Word := ⟨true, text⟩

def tight (text : String) : Word := ⟨false, text⟩

@[simp] theorem text_spaced (text : String) : (spaced text).text = text := rfl

@[simp] theorem text_tight (text : String) : (tight text).text = text := rfl

/-! ### Printing -/

section Printing

variable {α : Type}

/-- Items one after the other, the first one behind a space if that is asked for. -/
def row (print : Bool → α → List Word) (space : Bool) : List α → List Word
  | [] => []
  | a :: as => print space a ++ as.flatMap (print true)

/-- Items with commas between them. -/
def listed (print : Bool → α → List Word) (space : Bool) : List α → List Word
  | [] => []
  | a :: as => print space a ++ as.flatMap fun b => tight "," :: print true b

end Printing

/-- A dotted name. -/
def dotted (space : Bool) (name : String) : List Word :=
  match Name.segments name with
  | [] => []
  | s :: more => ⟨space, s⟩ :: more.flatMap fun s => [tight ".", tight s]

/-- Pairs of square brackets. -/
def pairs (n : Nat) : List Word := (List.replicate n [tight "[", tight "]"]).flatten

end Java

open Java

def TypeSpec.words (space : Bool) (t : TypeSpec) : List Word :=
  dotted space t.name ++ pairs t.dims.toNat

/-- The types after a keyword, which is left out where there are none. -/
def TypeSpec.clause (keyword : String) : List TypeSpec → List Word
  | [] => []
  | t :: ts => spaced keyword :: listed TypeSpec.words true (t :: ts)

def ImportDecl.words (space : Bool) (i : ImportDecl) : List Word :=
  ⟨space, "import"⟩ :: (if i.isStatic then [spaced "static"] else []) ++ dotted true i.name ++
    (if i.onDemand then [tight ".", tight "*"] else []) ++ [tight ";"]

/-- A parameter. The dots of a variable-arity parameter stand for its last dimension. -/
def ParamDecl.words (space : Bool) (p : ParamDecl) : List Word :=
  if p.variadic then
    dotted space p.type.name ++ pairs (p.type.dims.toNat - 1) ++ [tight "...", spaced p.name]
  else p.type.words space ++ [spaced p.name]

def FieldDecl.words (f : FieldDecl) : List Word :=
  f.modifiers.map spaced ++ (f.type.words true ++ [spaced f.name, tight ";"])

/-- The end of a method: an empty body, or a semicolon. -/
def Java.bodyWords (bodied : Bool) : List Word :=
  if bodied then [spaced leftBrace, spaced rightBrace] else [tight ";"]

/-- A method after its name. A constructor has a body. -/
def MethodDecl.rest (bodied : Bool) (m : MethodDecl) : List Word :=
  tight "(" :: (listed ParamDecl.words false m.params ++
    tight ")" :: (TypeSpec.clause "throws" m.throws ++ bodyWords (bodied || m.isConstructor)))

def MethodDecl.words (bodied : Bool) (m : MethodDecl) : List Word :=
  m.modifiers.map spaced ++
    ((m.returns.toList.flatMap fun t => t.words true) ++ spaced m.name :: m.rest bodied)

/-- The keyword in front of the interfaces of a type. -/
def TypeKind.interfaceWord : TypeKind → String
  | .interfaceType => "extends"
  | _ => "implements"

/-- Which methods of which types are printed with a body. -/
abbrev Style := TypeKind → MethodDecl → Bool

mutual

def TypeDecl.words (style : Style) (space : Bool) : TypeDecl → List Word
  | { kind, name, modifiers, superclass, interfaces, fields, methods, nested, .. } =>
    row (fun s w => [⟨s, w⟩]) space (modifiers ++ [kind.word]) ++ [spaced name] ++
      (superclass.toList.flatMap fun t => spaced "extends" :: t.words true) ++
      TypeSpec.clause kind.interfaceWord interfaces ++ [spaced leftBrace] ++
      (fields.flatMap FieldDecl.words ++ methods.flatMap (fun m => m.words (style kind m)) ++
        TypeDecl.wordsAll style nested) ++
      [spaced rightBrace]

def TypeDecl.wordsAll (style : Style) : List TypeDecl → List Word
  | [] => []
  | t :: ts => t.words style true ++ TypeDecl.wordsAll style ts

end

theorem TypeDecl.wordsAll_eq (style : Style) (ts : List TypeDecl) :
    wordsAll style ts = ts.flatMap (words style true) := by
  induction ts with
  | nil => rfl
  | cons t ts ih => rw [wordsAll, ih, List.flatMap_cons]

/-- The members of a type. -/
def TypeDecl.body (style : Style) (t : TypeDecl) : List Word :=
  t.fields.flatMap FieldDecl.words ++ (t.methods.flatMap (fun m => m.words (style t.kind m)) ++
    t.nested.flatMap (TypeDecl.words style true))

/-- A type after its keyword. -/
def TypeDecl.rest (style : Style) (t : TypeDecl) : List Word :=
  spaced t.name :: ((t.superclass.toList.flatMap fun s => spaced "extends" :: s.words true) ++
    (TypeSpec.clause t.kind.interfaceWord t.interfaces ++
      spaced leftBrace :: (t.body style ++ [spaced rightBrace])))

theorem TypeDecl.words_eq (style : Style) (space : Bool) (t : TypeDecl) :
    t.words style space =
      row (fun s w => [⟨s, w⟩]) space (t.modifiers ++ [t.kind.word]) ++ t.rest style := by
  cases t
  simp [words, rest, body, wordsAll_eq]

def UnitDecl.words (style : Style) (u : UnitDecl) : List Word :=
  (if u.package = "" then [] else tight "package" :: dotted true u.package ++ [tight ";"]) ++
    row ImportDecl.words (u.package ≠ "") u.imports ++
    row (TypeDecl.words style) (u.package ≠ "" ∨ u.imports ≠ []) u.types

/-- The text of a unit. -/
def UnitDecl.print (style : Style) (u : UnitDecl) : String :=
  String.ofList (Lexeme.render ((u.words style).map Word.lexeme))

/-! ### What can be printed -/

namespace Java

/-- The words that are keywords in some places only, and the low line, which is one since names of
no use are written with it. -/
def contextualWords : List String :=
  ["_", "exports", "module", "open", "opens", "permits", "provides", "record", "requires", "sealed",
    "to", "transitive", "uses", "var", "when", "with", "yield"]

def reservedWords : List String := Classic.keywords ++ Classic.constants ++ contextualWords

/-- A word of ASCII that is reserved nowhere. -/
def IsIdentifier (name : String) : Prop := isPlainWord name = true ∧ name ∉ reservedWords

instance (name : String) : Decidable (IsIdentifier name) := inferInstanceAs (Decidable (_ ∧ _))

def IsDotted (name : String) : Prop := ∀ s ∈ Name.segments name, IsIdentifier s

instance (name : String) : Decidable (IsDotted name) := inferInstanceAs (Decidable (∀ s ∈ _, _))

/-- The modifiers that declarations of all sorts share. -/
def sharedModifiers : List String :=
  ["public", "protected", "private", "abstract", "static", "final"]

/-- Modifiers, each once and in order. -/
def AreModifiers (words : List String) : Prop := words.Sublist sharedModifiers

instance (words : List String) : Decidable (AreModifiers words) :=
  inferInstanceAs (Decidable (List.Sublist _ _))

end Java

structure TypeSpec.Printable (t : TypeSpec) : Prop where
  name : t.name ∈ Token.basicTypes ∨ IsDotted t.name
  dims : 0 ≤ t.dims

/-- A class or an interface, and no array. -/
structure TypeSpec.IsReference (t : TypeSpec) : Prop where
  name : IsDotted t.name
  dims : t.dims = 0

structure FieldDecl.Printable (f : FieldDecl) : Prop where
  name : IsIdentifier f.name
  type : f.type.Printable
  modifiers : AreModifiers f.modifiers

structure ParamDecl.Printable (p : ParamDecl) : Prop where
  name : IsIdentifier p.name
  type : p.type.Printable
  variadic : p.variadic = true → 1 ≤ p.type.dims

structure MethodDecl.Printable (m : MethodDecl) : Prop where
  name : IsIdentifier m.name
  modifiers : AreModifiers m.modifiers
  constructed : m.isConstructor = true → m.returns = none
  returns : m.isConstructor = false → ∃ t, m.returns = some t ∧ (t = ⟨"void", 0⟩ ∨ t.Printable)
  params : ∀ p ∈ m.params, p.Printable
  fixed : ∀ p ∈ m.params.dropLast, p.variadic = false
  throws : ∀ t ∈ m.throws, t.IsReference

/-- Classes and interfaces, with member types of any depth. An interface has methods and member
types only. -/
inductive TypeDecl.Printable : TypeDecl → Prop
  | intro {t : TypeDecl} (kind : t.kind = .classType ∨ t.kind = .interfaceType)
      (name : IsIdentifier t.name) (modifiers : AreModifiers t.modifiers)
      (superclass : ∀ s ∈ t.superclass, s.IsReference)
      (interfaces : ∀ s ∈ t.interfaces, s.IsReference)
      (fields : ∀ f ∈ t.fields, f.Printable) (methods : ∀ m ∈ t.methods, m.Printable)
      (abstract : t.kind = .interfaceType →
        t.superclass = none ∧ t.fields = [] ∧ ∀ m ∈ t.methods, m.isConstructor = false)
      (nested : ∀ n ∈ t.nested, n.Printable) : Printable t

structure UnitDecl.Printable (u : UnitDecl) : Prop where
  package : u.package = "" ∨ IsDotted u.package
  imports : ∀ i ∈ u.imports, IsDotted i.name
  types : ∀ t ∈ u.types, t.Printable

/-! The predicates on the parts of a type are decidable. -/

instance (t : TypeSpec) : Decidable t.Printable :=
  decidable_of_iff (_ ∧ _) ⟨fun h => ⟨h.1, h.2⟩, fun h => ⟨h.name, h.dims⟩⟩

instance (t : TypeSpec) : Decidable t.IsReference :=
  decidable_of_iff (_ ∧ _) ⟨fun h => ⟨h.1, h.2⟩, fun h => ⟨h.name, h.dims⟩⟩

instance (f : FieldDecl) : Decidable f.Printable :=
  decidable_of_iff (_ ∧ _ ∧ _)
    ⟨fun h => ⟨h.1, h.2.1, h.2.2⟩, fun h => ⟨h.name, h.type, h.modifiers⟩⟩

instance (p : ParamDecl) : Decidable p.Printable :=
  decidable_of_iff (_ ∧ _ ∧ _)
    ⟨fun h => ⟨h.1, h.2.1, h.2.2⟩, fun h => ⟨h.name, h.type, h.variadic⟩⟩

instance (m : MethodDecl) : Decidable m.Printable :=
  decidable_of_iff (IsIdentifier m.name ∧ AreModifiers m.modifiers ∧
      (m.isConstructor = true → m.returns = none) ∧
      (m.isConstructor = false → m.returns.any fun t => t = ⟨"void", 0⟩ ∨ t.Printable) ∧
      (∀ p ∈ m.params, p.Printable) ∧ (∀ p ∈ m.params.dropLast, p.variadic = false) ∧
      ∀ t ∈ m.throws, t.IsReference)
    ⟨fun ⟨name, mods, constructed, returns, params, fixed, throws⟩ =>
      ⟨name, mods, constructed, by simpa [Option.any_eq_true] using returns, params, fixed, throws⟩,
    fun ⟨name, mods, constructed, returns, params, fixed, throws⟩ =>
      ⟨name, mods, constructed, by simpa [Option.any_eq_true] using returns, params, fixed, throws⟩⟩

mutual

/-- The declaration with a line, which its member types share. -/
def TypeDecl.onLine (line : Int) : TypeDecl → TypeDecl
  | { kind, name, modifiers, superclass, interfaces, fields, methods, nested, .. } =>
    { kind, name, modifiers, superclass, interfaces, fields, methods
      nested := TypeDecl.allOnLine line nested, line := some line }

def TypeDecl.allOnLine (line : Int) : List TypeDecl → List TypeDecl
  | [] => []
  | t :: ts => t.onLine line :: TypeDecl.allOnLine line ts

end

theorem TypeDecl.allOnLine_eq_map (line : Int) (ts : List TypeDecl) :
    allOnLine line ts = ts.map (onLine line) := by
  induction ts with
  | nil => rfl
  | cons t ts ih => rw [allOnLine, ih, List.map_cons]

theorem TypeDecl.onLine_eq (line : Int) (t : TypeDecl) :
    t.onLine line = { t with nested := t.nested.map (onLine line), line := some line } := by
  cases t
  simp [onLine, allOnLine_eq_map]

/-- The unit with all its types on one line. -/
def UnitDecl.onLine (line : Int) (u : UnitDecl) : UnitDecl :=
  { u with types := u.types.map (TypeDecl.onLine line) }

end JavaAtlas
