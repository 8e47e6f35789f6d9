import JavaAtlas.Listing.Basic
import Mathlib.Data.List.Forall2

/-! Class listings as they are printed. An entry can be printed in many ways: with more or less white
space, with a dollar sign or a dot in front of a member class, with type arguments wherever there
are types, with exceptions that are thrown and classes that are permitted, and with its fields and
methods in one order or another. `Prints` is the relation between an entry and all its listings. -/

namespace JavaAtlas.Listing

/-! ### Words and lines -/

/-- White space inside a line. -/
def IsGap (gap : List Char) : Prop := ∀ c ∈ gap, Text.isBlank c = true ∧ Text.isLineEnd c = false

/-- White space that separates two words. -/
def Separates (gap : List Char) : Prop := gap ≠ [] ∧ IsGap gap

instance (gap : List Char) : Decidable (IsGap gap) :=
  decidable_of_iff (gap.all (fun c => Text.isBlank c && !Text.isLineEnd c) = true)
    (by simp [IsGap])

instance (gap : List Char) : Decidable (Separates gap) :=
  inferInstanceAs (Decidable (gap ≠ [] ∧ IsGap gap))

/-- Words with white space after each of them. -/
inductive Leading : List (List Char) → List Char → Prop
  | nil : Leading [] []
  | cons {word gap text : List Char} {words : List (List Char)} (apart : Separates gap)
      (more : Leading words text) : Leading (word :: words) (word ++ (gap ++ text))

/-- A name in print, where a dollar sign may stand for a dot. -/
def Spells (printed : List Char) (name : String) : Prop :=
  List.Forall₂ (fun c d => c = d ∨ c = '$' ∧ d = '.') printed name.toList

instance (printed : List Char) (name : String) : Decidable (Spells printed name) :=
  inferInstanceAs (Decidable (List.Forall₂ _ printed name.toList))

/-- Names with commas between them. -/
inductive Lists : List String → List Char → Prop
  | nil : Lists [] []
  | one {printed : List Char} {name : String} (spelled : Spells printed name) : Lists [name] printed
  | cons {printed gap text : List Char} {name next : String} {names : List String}
      (spelled : Spells printed name) (apart : IsGap gap) (more : Lists (next :: names) text) :
      Lists (name :: next :: names) (printed ++ ',' :: (gap ++ text))

/-- Names after a keyword, which is left out where there are none. -/
inductive Clause (word : String) : List String → List Char → Prop
  | none : Clause word [] []
  | some {gap gap' text : List Char} {name : String} {names : List String} (apart : Separates gap)
      (apart' : Separates gap') (listed : Lists (name :: names) text) :
      Clause word (name :: names) (gap ++ (word.toList ++ (gap' ++ text)))

/-- The text inside the brackets of type arguments. -/
inductive Balanced : List Char → Prop
  | nil : Balanced []
  | char {c : Char} {cs : List Char} (plain : c ≠ '<' ∧ c ≠ '>') (more : Balanced cs) :
      Balanced (c :: cs)
  | nested {inner cs : List Char} (inside : Balanced inner) (more : Balanced cs) :
      Balanced ('<' :: (inner ++ '>' :: cs))

/-- A text with type arguments at any places in it. -/
inductive Decorated : List Char → List Char → Prop
  | nil : Decorated [] []
  | char {c : Char} {plain text : List Char} (notBracket : c ≠ '<' ∧ c ≠ '>')
      (more : Decorated plain text) : Decorated (c :: plain) (c :: text)
  | arguments {inner plain text : List Char} (inside : Balanced inner)
      (more : Decorated plain text) : Decorated plain ('<' :: (inner ++ '>' :: text))

/-- A line that shows a text, indented or not, with type arguments. -/
structure Shows (line plain : List Char) : Prop where
  single : ∀ c ∈ line, Text.isLineEnd c = false
  decorated : ∃ before after, IsGap before ∧ IsGap after ∧
    Decorated (before ++ (plain ++ after)) line

/-- Lines with an end of line after each of them. -/
inductive Lines : List (List Char) → List Char → Prop
  | nil : Lines [] []
  | cons {line ending text : List Char} {lines : List (List Char)}
      (ends : ending = ['\n'] ∨ ending = ['\r', '\n']) (more : Lines lines text) :
      Lines (line :: lines) (line ++ (ending ++ text))

/-! ### Names -/

/-- The words that an identifier of a listing is not. -/
def keywords : List String := ["extends", "implements", "permits", "throws"] ++ Modifier.canonical

/-- A character of an identifier. -/
def isIdentifierChar (c : Char) : Bool := c.isAlphanum || c == '_'

def IsIdentifier (name : String) : Prop :=
  name.toList ≠ [] ∧ (∀ c ∈ name.toList, isIdentifierChar c = true) ∧ name ∉ keywords

def IsDotted (name : String) : Prop := ∀ s ∈ Name.segments name, IsIdentifier s

instance (name : String) : Decidable (IsIdentifier name) :=
  decidable_of_iff (name.toList ≠ [] ∧ name.toList.all isIdentifierChar = true ∧ name ∉ keywords)
    (by rw [List.all_eq_true, IsIdentifier])

instance (name : String) : Decidable (IsDotted name) :=
  inferInstanceAs (Decidable (∀ s ∈ Name.segments name, IsIdentifier s))

/-! ### Headers and members -/

/-- What may follow `extends` in a header: the interfaces of an interface, or the superclass. The
root class may be named or left out. -/
def Extends (e : Entry) (names : List String) : Prop :=
  if e.kind.isInterface then names = e.interfaces
  else names = e.superclass.toList ∨ e.superclass = none ∧ names = ["java.lang.Object"]

/-- What follows `implements` in a header. -/
def implemented (e : Entry) : List String := if e.kind.isInterface then [] else e.interfaces

/-- The text of a header. The permitted classes are not part of the entry. -/
inductive HeaderText (full : String) (e : Entry) : List Char → Prop
  | intro {modifiers gap name extended implementing permitting gap' : List Char} {word : String}
      {supers permitted : List String} (dotted : ∀ s ∈ permitted, IsDotted s)
      (led : Leading (e.modifiers.map String.toList) modifiers) (kind : (word, e.kind) ∈ kinds)
      (apart : Separates gap) (named : Spells name full)
      (superclass : Extends e supers) (extending : Clause "extends" supers extended)
      (implements : Clause "implements" (implemented e) implementing)
      (permits : Clause "permits" permitted permitting) (apart' : Separates gap') :
      HeaderText full e (modifiers ++ (word.toList ++ (gap ++ (name ++ (extended ++
        (implementing ++ (permitting ++ (gap' ++ ['\x7b']))))))))

/-- The text of a field. -/
inductive FieldText (f : FieldEntry) : List Char → Prop
  | intro {leading type : List Char} {name spec : String} (named : f.name = some name)
      (typed : f.type = some spec) (spelled : Spells type spec)
      (led : Leading (f.modifiers.map String.toList ++ [type]) leading) :
      FieldText f (leading ++ (name.toList ++ [';']))

/-- The parameters of a method and what follows them. The exceptions it throws are not part of the
entry. -/
inductive CallText (params : List String) : List Char → Prop
  | intro {listed throwing : List Char} {thrown : List String} (lists : Lists params listed)
      (throws : Clause "throws" thrown throwing) :
      CallText params ('(' :: (listed ++ ')' :: (throwing ++ [';'])))

/-- The text of a method or of a constructor, which has the full name of its class. -/
inductive MethodText (full : String) (m : MethodEntry) : List Char → Prop
  | method {leading type call : List Char} {name : String} (plain : m.isConstructor = false)
      (named : m.name = some name) (spelled : Spells type m.returns)
      (led : Leading (m.modifiers.map String.toList ++ [type]) leading)
      (called : CallText m.params call) : MethodText full m (leading ++ (name.toList ++ call))
  | constructor {leading printed call : List Char} (constructed : m.isConstructor = true)
      (spelled : Spells printed full) (led : Leading (m.modifiers.map String.toList) leading)
      (called : CallText m.params call) : MethodText full m (leading ++ (printed ++ call))

/-! ### Listings -/

/-- Lines that say nothing about the class. -/
inductive Silent : List Char → Prop
  | blank {line : List Char} (gap : IsGap line) : Silent line
  | compiled {file : List Char} (single : ∀ c ∈ file, Text.isLineEnd c = false) :
      Silent ("Compiled from".toList ++ file)

/-- The lines of members, with empty lines and initializers between them. -/
inductive MemberLines (full : String) :
    List FieldEntry → List MethodEntry → List (List Char) → Prop
  | nil : MemberLines full [] [] []
  | silent {fields : List FieldEntry} {methods : List MethodEntry} {line : List Char}
      {lines : List (List Char)} (silent : Silent line) (more : MemberLines full fields methods lines) :
      MemberLines full fields methods (line :: lines)
  | initializer {fields : List FieldEntry} {methods : List MethodEntry} {line gap : List Char}
      {lines : List (List Char)} (apart : Separates gap)
      (shown : Shows line ("static".toList ++ (gap ++ ['\x7b', '\x7d', ';'])))
      (more : MemberLines full fields methods lines) : MemberLines full fields methods (line :: lines)
  | field {f : FieldEntry} {fields : List FieldEntry} {methods : List MethodEntry}
      {line text : List Char} {lines : List (List Char)} (printed : FieldText f text)
      (shown : Shows line text) (more : MemberLines full fields methods lines) :
      MemberLines full (f :: fields) methods (line :: lines)
  | method {m : MethodEntry} {fields : List FieldEntry} {methods : List MethodEntry}
      {line text : List Char} {lines : List (List Char)} (printed : MethodText full m text)
      (shown : Shows line text) (more : MemberLines full fields methods lines) :
      MemberLines full fields (m :: methods) (line :: lines)

/-- A listing of the class with a full name. Anything may stand behind its closing brace. -/
inductive Prints (full : String) (e : Entry) (text : String) : Prop
  | intro {before members : List (List Char)} {header headerText lines brace rest : List Char}
      (silent : ∀ l ∈ before, Silent l) (headed : HeaderText full e headerText)
      (shown : Shows header headerText) (listed : MemberLines full e.fields e.methods members)
      (broken : Lines (before ++ header :: members) lines) (closed : Shows brace ['\x7d'])
      (ended : rest = [] ∨ ∃ c cs, rest = c :: cs ∧ Text.isLineEnd c = true)
      (whole : text.toList = lines ++ (brace ++ rest))

/-! ### What can be listed -/

/-- The text of a type: a name and pairs of brackets. -/
def IsType (text : String) : Prop :=
  ∃ name dims, IsDotted name ∧ text.toList = name.toList ++ (List.replicate dims ['[', ']']).flatten

/-- The text of a parameter: a type, which may end in dots. -/
def IsParam (text : String) : Prop :=
  ∃ type dots, IsType type ∧ (dots = [] ∨ dots = ['.', '.', '.']) ∧ text.toList = type.toList ++ dots

def AreModifiers (words : List String) : Prop := ∀ w ∈ words, w ∈ Modifier.canonical

structure FieldListable (f : FieldEntry) : Prop where
  name : ∃ name, f.name = some name ∧ IsIdentifier name
  type : ∃ type, f.type = some type ∧ IsType type
  modified : f.modifiers ≠ []
  modifiers : AreModifiers f.modifiers

structure MethodListable (full : String) (m : MethodEntry) : Prop where
  constructed : m.isConstructor = true → m.name = some (Name.last full) ∧ m.returns = "void"
  name : m.isConstructor = false → ∃ name, m.name = some name ∧ IsIdentifier name
  returns : m.isConstructor = false → IsType m.returns
  params : ∀ p ∈ m.params, IsParam p
  modified : m.modifiers ≠ []
  modifiers : AreModifiers m.modifiers

/-- The entries of classes in named packages that a listing can tell. -/
structure Listable (full : String) (e : Entry) : Prop where
  named : IsDotted full ∧ '.' ∈ full.toList
  kind : e.kind ∈ kinds.map Prod.snd
  modifiers : AreModifiers e.modifiers
  superclass : ∀ s ∈ e.superclass, IsDotted s ∧ s ≠ "java.lang.Object"
  single : e.kind.isInterface = true → e.superclass = none
  interfaces : ∀ s ∈ e.interfaces, IsDotted s
  fields : ∀ f ∈ e.fields, FieldListable f
  methods : ∀ m ∈ e.methods, MethodListable full m

end JavaAtlas.Listing
