import JavaAtlas.Java.Body
import JavaAtlas.Java.Classic.Lexer
import JavaAtlas.Modifier

/-! The phrases of Java 8 that contain each other, and the small readers that all of them share.
Rules are written against a table that reads every phrase, and the table is tied up at the end, one
level of nesting at a time. -/

namespace JavaAtlas.Java.Classic

/-- The phrases that contain each other. -/
inductive Phrase where
  | typeArguments
  | elementValue
  | expression
  | conditional
  | operand
  | initializer
  | statement
  | blockStatement
  | body (b : Body)
deriving DecidableEq

/-- A reader for every phrase. Only the bodies of types have members to report. -/
abbrev Table := Phrase → Reader Members

/-- Reads a phrase of which nothing is reported. -/
def Table.skip (table : Table) (phrase : Phrase) : Reader Unit := do let _ ← table phrase

open Reader

def isModifier (t : Token) : Bool :=
  t.kind == .reserved && modifiers.contains t.text

/-- An annotation starts here, and no annotation type. -/
def annotationAhead : List Token → Bool
  | t :: ts => t.is "@" && !(ts.head?.any (Token.is "interface"))
  | [] => false

def nextAnnotation : Reader Bool := do return annotationAhead (← ahead)

/-- An annotation type starts here. -/
def nextAnnotationType : Reader Bool := nextAll ["@", "interface"]

/-- A dotted name. -/
def qualifiedName : Reader String := do
  return ".".intercalate (← separated "." identifier)

/-- A class type with its type arguments left out. -/
def referenceType (table : Table) : Reader String := do
  let segments ← separated "." do
    let name ← identifier
    if ← next "<" then table.skip .typeArguments
    return name
  return ".".intercalate segments

/-- A type. -/
def type (table : Table) : Reader TypeSpec := do
  match ← look 0 with
  | some t =>
    if t.isBasicType then
      let _ ← any
      return ⟨t.text, ← dimensions⟩
    else if t.isWord then
      let name ← referenceType table
      return ⟨name, ← dimensions⟩
    else refuse
  | none => refuse

/-- A type that is no basic type; an array of one is allowed. -/
def elementType (table : Table) : Reader TypeSpec := do
  if ← sees [Token.isBasicType] then
    let t ← any
    expect "["
    expect "]"
    return ⟨t.text, 1 + (← dimensions)⟩
  else
    let name ← referenceType table
    return ⟨name, ← dimensions⟩

def typeList (table : Table) : Reader (List TypeSpec) := separated "," (elementType table)

/-- One type argument: a type, or a wildcard with or without a bound. -/
def typeArgument (table : Table) : Reader Unit := do
  if ← try1 "?" then
    if !(← nextIn ["extends", "super"]) then return
    let _ ← any
  let _ ← elementType table

/-- Type arguments in angle brackets, one at least. -/
def typeArguments (table : Table) : Reader Unit := do
  expect "<"
  typeArgument table
  let _ ← repeated do
    if ← try1 ">" then return none
    expect ","
    typeArgument table
    return some ()

/-- Type arguments without wildcards. -/
def plainTypeArguments (table : Table) : Reader Unit := do
  expect "<"
  let _ ← typeList table
  expect ">"

/-- The declaration of a type parameter, with its bounds. -/
def typeParameter (table : Table) : Reader Unit := do
  let _ ← identifier
  if ← try1 "extends" then
    let _ ← separated "&" (referenceType table)

def typeParameters (table : Table) : Reader Unit := do
  expect "<"
  typeParameter table
  let _ ← repeated do
    if ← try1 ">" then return none
    expect ","
    typeParameter table
    return some ()

/-- An annotation with its arguments. -/
def annotationUse (table : Table) : Reader Unit := do
  expect "@"
  let _ ← qualifiedName
  if ← try1 "(" then
    if !(← next ")") then
      if ← sees [Token.isWord, Token.is "="] then
        let _ ← separated "," do
          let _ ← identifier
          expect "="
          table.skip .elementValue
      else table.skip .elementValue
    expect ")"

/-- The value of an annotation's element: an annotation, a list of values or an expression. -/
def elementValue (table : Table) : Reader Unit := do
  if ← nextAnnotation then annotationUse table
  else if ← try1 leftBrace then
    if ← try1 rightBrace then return
    table.skip .elementValue
    let _ ← repeated do
      if (← next rightBrace) || (← nextAll [",", rightBrace]) then return none
      expect ","
      table.skip .elementValue
      return some ()
    let _ ← try1 ","
    expect rightBrace
  else table.skip .conditional

/-- Modifiers and annotations in any order. The modifiers are reported. -/
def modifiersAndAnnotations (table : Table) : Reader (List String) := do
  let words ← repeated do
    if ← sees [isModifier] then return some [(← any).text]
    if ← nextAnnotation then
      annotationUse table
      return some []
    return none
  return words.flatten

/-- The modifier and the annotations of a variable. -/
def variableModifiers (table : Table) : Reader Unit := do
  let _ ← repeated do
    if ← try1 "final" then return some ()
    if ← nextAnnotation then
      annotationUse table
      return some ()
    return none

/-- A parameter. A variable-arity parameter has one dimension more. -/
def parameter (table : Table) : Reader ParamDecl := do
  variableModifiers table
  let spec ← type table
  let variadic ← try1 "..."
  let name ← identifier
  let extra ← dimensions
  return { name, type := ⟨spec.name, spec.dims + extra + if variadic then 1 else 0⟩, variadic }

/-- At most `n` parameters. Nothing follows a variable-arity parameter. -/
def parametersUpTo (table : Table) : Nat → Reader (List ParamDecl)
  | 0 => throw .exhausted
  | n + 1 => do
    let p ← parameter table
    if p.variadic then return [p]
    if ← try1 "," then return p :: (← parametersUpTo table n) else return [p]

/-- Parameters in parentheses. -/
def parameters (table : Table) : Reader (List ParamDecl) := do
  expect "("
  if ← try1 ")" then return []
  let ps ← parametersUpTo table ((← ahead).length + 1)
  expect ")"
  return ps

/-- What follows a variable's name: dimensions and the value it starts with. -/
def declaratorRest (table : Table) : Reader Nat := do
  let extra ← dimensions
  if ← try1 "=" then table.skip .initializer
  return extra

/-- A variable's name, with the dimensions after it. -/
def declarator (table : Table) : Reader (String × Nat) := do
  let name ← identifier
  return (name, ← declaratorRest table)

/-- Statements in braces. -/
def block (table : Table) : Reader Unit := do
  expect leftBrace
  let _ ← untilNext rightBrace (table.skip .blockStatement)
  expect rightBrace

end JavaAtlas.Java.Classic
