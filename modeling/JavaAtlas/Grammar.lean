import JavaAtlas.Java.Classic.Unit
import JavaAtlas.Java.Modern.Unit
import JavaAtlas.ParseError
import JavaAtlas.Value

/-! The grammars that Java text is read with. -/

namespace JavaAtlas

/-- The Java of version 8, whose names are sequences of tokens, or current Java, whose names are
stretches of the text. -/
inductive Grammar where
  | classic
  | modern
deriving Repr, BEq, DecidableEq

namespace Grammar

/-- The name under which a grammar is chosen. -/
def name : Grammar → String
  | .classic => "javalang"
  | .modern => "tree-sitter"

/-- The grammar that is used where none is chosen. -/
def usual : Grammar := .classic

/-- The grammar of a name. A setting may hold any value in place of a name. -/
def ofValue? : Value → Option Grammar
  | .text s =>
    if s = classic.name then some .classic
    else if s = modern.name then some .modern
    else none
  | _ => none

@[simp] theorem ofValue?_name (g : Grammar) : ofValue? (.text g.name) = some g := by
  cases g <;> simp [ofValue?, name]

/-- The declarations of a text. -/
def read (g : Grammar) (text : String) (origin : Option String) : Except ParseError UnitDecl :=
  match g with
  | .classic =>
    (Java.Classic.read text).mapError fun line =>
      { message := "Syntax error", line := line.map Int.ofNat, origin }
  | .modern =>
    match Java.Modern.read text with
    | some unit => .ok unit
    | none => .error { message := "Syntax error", origin }

end Grammar

end JavaAtlas
