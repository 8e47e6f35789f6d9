import JavaAtlas.Java.Modern.Member
import JavaAtlas.Java.Modern.Module

/-! Compilation units of current Java. A unit is made of statements, as a block is, and of methods;
types and imports may stand anywhere, and only those outside all blocks are reported. -/

namespace JavaAtlas.Java.Modern

open Reader

/-- A part of a unit or a block. -/
inductive UnitPart where
  | package (name : String)
  | imported (i : ImportDecl)
  | declared (m : Members)

/-- Modifiers come next. The soft one among them may also be a name. -/
def nextModifiers (top : Bool) : Reader Bool := do
  if ← next "sealed" then
    sees [Token.is "sealed",
      fun t => t.isWordExcept ["instanceof"] || t.is "@" || (top && t.is "<")]
  else return (← nextIn modifierWords) || (← nextHyphenated)

/-- A method outside all types, after its modifiers. -/
def topMethod (table : Table) (words : Keywords) : Reader Unit := do
  let lead : Lead := ⟨none, []⟩
  if ← next "<" then
    let _ ← genericMethod table lead
  else
    let spec ← typeAmong table words
    let _ ← methodRest table lead spec (← wordExcept ["_"])

/-- A declaration after its modifiers. -/
def modifiedPart (table : Table) (top : Bool) : Reader Members := do
  let start ← lead table
  match ← typeDeclaration? table start true with
  | some m => return m
  | none =>
    if top then orElse (topMethod table {}) (localVariables table {})
    else localVariables table {}
    return {}

/-- A part that starts with an annotation: a package, a module, a declaration, or an expression
that starts with an annotated type. After one annotation some words are keywords; after a second one
they may be names. -/
def annotatedPart (table : Table) (top : Bool) : Reader UnitPart := do
  let before (mark : Reader Bool) : Reader Bool :=
    fitsHere do
      annotationUse table
      if !(← mark) then refuse
  let package : Reader UnitPart := return .package (← packageDeclaration table)
  let module : Reader UnitPart := do moduleDeclaration table; return .declared {}
  let modified : Reader UnitPart := return .declared (← modifiedPart table top)
  let plain : Reader UnitPart := do expressionStatement table; return .declared {}
  if ← before nextAnnotationType then modified
  else if ← before (nextIn ["module", "open", "package"]) then orElse package module
  else orElse package (orElse module (orElse modified plain))

/-- A statement, or a method where one may stand. -/
def part (table : Table) (top : Bool) : Reader UnitPart := do
  if ← next "import" then return .imported (← importDeclaration)
  if ← next "package" then return .package (← packageDeclaration table)
  if (← next "@") && !(← nextAnnotationType) then return ← annotatedPart table top
  if ← nextModule then
    moduleDeclaration table
    return .declared {}
  if ← keywordStatement? table then return .declared {}
  if ← nextModifiers top then return .declared (← modifiedPart table top)
  let start := (← look 0).map Token.line
  let records ← sees [Token.is "record", Token.isWordExcept ["instanceof"]]
  match ← typeDeclaration? table ⟨start, []⟩ records with
  | some m => return .declared m
  | none =>
    if top then orElse (topMethod table statementKeywords) (plainStatement table)
    else plainStatement table
    return .declared {}

/-- A compilation unit. The last package declaration counts. -/
def compilationUnit (table : Table) : Reader UnitDecl := do
  let parts ← repeated do
    if (← ahead).isEmpty then return none else return some (← part table true)
  let packages := parts.filterMap fun | .package name => some name | _ => none
  return {
    package := packages.getLastD ""
    imports := parts.filterMap fun | .imported i => some i | _ => none
    types := (parts.map fun | .declared m => m.types | _ => []).flatten }

/-- The rule of every phrase, in terms of the phrases inside it. -/
def rule (table : Table) : Table
  | .typeArguments => do typeArguments table; return {}
  | .elementValue => do elementValue table; return {}
  | .expression => do expression table; return {}
  | .operand => do operand table; return {}
  | .initializer => do initializer table; return {}
  | .statement => do let _ ← part table false; return {}
  | .body b => (bodyReaders table).body b

/-- Reads phrases up to a depth of nesting. -/
def phrases : Nat → Table
  | 0 => fun _ => throw .exhausted
  | depth + 1 => rule (phrases depth)

/-- The declarations of a text in current Java, or `none` where it does not fit the grammar. At most
three phrases start at one token, so four times the tokens bound the depth of nesting. -/
def read (text : String) : Option UnitDecl :=
  match tokens text with
  | none => none
  | some ts =>
    match (compilationUnit (phrases (4 * ts.length + 8))).run { rest := ts } with
    | (.ok unit, _) => some unit
    | (.error _, _) => none

end JavaAtlas.Java.Modern
