import JavaAtlas.Java.Classic.Statement

/-! Declarations of Java 8, from members up to a compilation unit. The members of types are
reported; a type's line is that of its keyword, past modifiers and annotations. -/

namespace JavaAtlas.Java.Classic

open Reader

/-- The exceptions that a method declares. -/
def throwsClause : Reader (List TypeSpec) := do
  if ← try1 "throws" then
    return (← separated "," qualifiedName).map fun name => ⟨name, 0⟩
  else return []

/-- The body of a method, or the semicolon in its place. -/
def methodBody (table : Table) : Reader Unit := do
  if ← next leftBrace then block table else expect ";"

/-- A method after its name. The dimensions after its parameters belong to its return type. -/
def methodRest (table : Table) (modifiers : List String) (spec : TypeSpec) (name : String) :
    Reader MethodDecl := do
  let params ← parameters table
  let extra ← dimensions
  let throws ← throwsClause
  methodBody table
  return { name, returns := some ⟨spec.name, spec.dims + extra⟩, params, modifiers, throws }

/-- A method without a result after its name. -/
def voidMethodRest (table : Table) (modifiers : List String) (name : String) :
    Reader MethodDecl := do
  let params ← parameters table
  let throws ← throwsClause
  methodBody table
  return { name, returns := some ⟨"void", 0⟩, params, modifiers, throws }

/-- A constructor after its name. It has a body. -/
def constructorRest (table : Table) (modifiers : List String) (name : String) :
    Reader MethodDecl := do
  let params ← parameters table
  let throws ← throwsClause
  block table
  return { name, params, modifiers, isConstructor := true, throws }

/-- The fields that variables of one type declare. -/
def fieldsOf (modifiers : List String) (spec : TypeSpec) (declared : List (String × Nat)) :
    Members :=
  { fields := declared.map fun (name, extra) =>
      { name, type := ⟨spec.name, spec.dims + extra⟩, modifiers } }

/-- Fields after the name of the first one. -/
def fieldsRest (table : Table) (modifiers : List String) (spec : TypeSpec) (name : String) :
    Reader Members := do
  let extra ← declaratorRest table
  let more ← repeated do
    if ← try1 "," then return some (← declarator table) else return none
  expect ";"
  return fieldsOf modifiers spec ((name, extra) :: more)

/-- What follows the name of a constant: dimensions and a value, which it must have. -/
def constantRest (table : Table) : Reader Nat := do
  let extra ← dimensions
  expect "="
  table.skip .initializer
  return extra

/-- Constants after the name of the first one. -/
def constantsRest (table : Table) (modifiers : List String) (spec : TypeSpec) (name : String) :
    Reader Members := do
  let extra ← constantRest table
  let more ← repeated do
    if ← try1 "," then
      let name ← identifier
      return some (name, ← constantRest table)
    else return none
  return fieldsOf modifiers spec ((name, extra) :: more)

/-- The interfaces after a keyword. -/
def typesAfter (table : Table) (word : String) : Reader (List TypeSpec) := do
  if ← try1 word then typeList table else return []

/-- The superclass, if there is one. -/
def superclass (table : Table) : Reader (Option TypeSpec) := do
  if ← try1 "extends" then return some (← type table) else return none

def typeReaders (table : Table) : TypeReaders where
  typeParameters := typeParameters table
  superclass := superclass table
  typesAfter := typesAfter table
  clauses := return
  nextAnnotationType := nextAnnotationType
  annotationTypeMark := do
    expect "@"
    expect "interface"
  body b := table (.body b)

/-- A type declaration after its modifiers, if the next token starts one. -/
def typeDeclaration? (table : Table) (modifiers : List String) : Reader (Option TypeDecl) := do
  let line := (← look 0).map Token.line
  (typeReaders table).declaration? ⟨line, modifiers⟩

/-- A type declaration with its modifiers. -/
def typeDeclaration (table : Table) : Reader TypeDecl := do
  let modifiers := Modifier.ordered (← modifiersAndAnnotations table)
  match ← typeDeclaration? table modifiers with
  | some t => return t
  | none => refuse

/-- A method or constructor with type parameters. -/
def genericMember (table : Table) (modifiers : List String) : Reader MethodDecl := do
  typeParameters table
  if ← sees [Token.isWord, Token.is "("] then
    constructorRest table modifiers (← identifier)
  else if ← try1 "void" then
    voidMethodRest table modifiers (← identifier)
  else
    let spec ← type table
    methodRest table modifiers spec (← identifier)

/-- A member of a class. A name right before a parenthesis is a constructor's. -/
def classMember (table : Table) : Reader Members := do
  let modifiers := Modifier.ordered (← modifiersAndAnnotations table)
  if ← try1 "void" then
    return .ofMethod (← voidMethodRest table modifiers (← identifier))
  else if ← next "<" then return .ofMethod (← genericMember table modifiers)
  else
    match ← typeDeclaration? table modifiers with
    | some t => return .ofType t
    | none =>
      if ← sees [Token.isWord, Token.is "("] then
        return .ofMethod (← constructorRest table modifiers (← identifier))
      else
        let spec ← type table
        let name ← identifier
        if ← next "(" then return .ofMethod (← methodRest table modifiers spec name)
        else fieldsRest table modifiers spec name

/-- A method of an interface with type parameters. The dimensions after its parameters are not part
of its return type. -/
def genericInterfaceMethod (table : Table) (modifiers : List String) : Reader MethodDecl := do
  typeParameters table
  let spec ← if ← try1 "void" then pure ⟨"void", 0⟩ else type table
  let m ← methodRest table modifiers spec (← identifier)
  return { m with returns := some spec }

/-- A member of an interface. -/
def interfaceMember (table : Table) : Reader Members := do
  if ← try1 ";" then return {}
  let modifiers := Modifier.ordered (← modifiersAndAnnotations table)
  match ← typeDeclaration? table modifiers with
  | some t => return .ofType t
  | none =>
    if ← next "<" then return .ofMethod (← genericInterfaceMethod table modifiers)
    else if ← try1 "void" then
      return .ofMethod (← voidMethodRest table modifiers (← identifier))
    else
      let spec ← type table
      let name ← identifier
      if ← next "(" then return .ofMethod (← methodRest table modifiers spec name)
      else
        let constants ← constantsRest table modifiers spec name
        expect ";"
        return constants

/-- A constant of an enum; its arguments and its body are not reported. -/
def enumConstant (table : Table) : Reader String := do
  let _ ← repeated do
    if ← nextAnnotation then return some (← annotationUse table) else return none
  let name ← identifier
  if ← next "(" then arguments table
  if ← next leftBrace then table.skip (.body .ofClass)
  return name

/-- At most `n` constants of an enum. A comma may follow the last one. -/
def constantsUpTo (table : Table) : Nat → Reader (List String)
  | 0 => throw .exhausted
  | n + 1 => do
    if ← nextIn [";", rightBrace] then return []
    let name ← enumConstant table
    if ← try1 "," then return name :: (← constantsUpTo table n) else return [name]

/-- The constants of an enum. A comma may stand in their place. -/
def enumConstants (table : Table) : Reader (List String) := do
  if ← try1 "," then return [] else constantsUpTo table ((← ahead).length + 1)

/-- An element of an annotation type: a member type, a method without parameters or constants. The
dimensions after the parentheses are not part of the element's type. -/
def annotationElement (table : Table) : Reader Members := do
  let modifiers := Modifier.ordered (← modifiersAndAnnotations table)
  match ← typeDeclaration? table modifiers with
  | some t => return .ofType t
  | none =>
    let spec ← type table
    let name ← identifier
    let element ←
      if ← try1 "(" then do
        expect ")"
        let _ ← dimensions
        if ← try1 "default" then table.skip .elementValue
        pure (.ofMethod { name, returns := some spec, modifiers })
      else constantsRest table modifiers spec name
    expect ";"
    return element

def bodyReaders (table : Table) : BodyReaders where
  block := block table
  classMember := classMember table
  interfaceMember := interfaceMember table
  constants := enumConstants table
  annotationElement := annotationElement table

/-- The rule of every phrase, in terms of the phrases inside it. -/
def rule (table : Table) : Table
  | .typeArguments => do typeArguments table; return {}
  | .elementValue => do elementValue table; return {}
  | .expression => do expression table; return {}
  | .conditional => do conditional table; return {}
  | .operand => do operand table; return {}
  | .initializer => do initializer table; return {}
  | .statement => do statement table; return {}
  | .blockStatement => do
    blockStatement table (do let _ ← typeDeclaration table)
    return {}
  | .body b => (bodyReaders table).body b

/-- Reads phrases up to a depth of nesting. -/
def phrases : Nat → Table
  | 0 => fun _ => throw .exhausted
  | depth + 1 => rule (phrases depth)

/-- An import. -/
def importDeclaration : Reader ImportDecl := do
  expect "import"
  let isStatic ← try1 "static"
  let first ← identifier
  let more ← repeated do
    if ← nextAll [".", "*"] then return none
    if ← try1 "." then return some (← identifier) else return none
  let onDemand ← tryAll [".", "*"]
  expect ";"
  return { name := ".".intercalate (first :: more), isStatic, onDemand }

/-- The package of a unit, which may be annotated. Annotations without a package after them are
left to what follows. -/
def packageDeclaration (table : Table) : Reader (Option String) := do
  mark
  let _ ← repeated do
    if ← nextAnnotation then return some (← annotationUse table) else return none
  if ← try1 "package" then
    unmark
    let name ← qualifiedName
    expect ";"
    return some name
  else
    goBack
    return none

/-- A type declaration or a semicolon. Where the text ends inside it, the next token is to
blame. -/
def unitPart (table : Table) : Reader (Option TypeDecl) := do
  try
    if ← try1 ";" then return none else return some (← typeDeclaration table)
  catch
    | .exhausted => refuse
    | e => throw e

/-- A compilation unit: its package, its imports, then its types. -/
def compilationUnit (table : Table) : Reader UnitDecl := do
  let package ← packageDeclaration table
  let imports ← repeated (whenNext "import" importDeclaration)
  let parts ← repeated do
    if (← ahead).isEmpty then return none else return some (← unitPart table)
  return { package := package.getD "", imports, types := parts.filterMap id }

/-- The declarations of a text in Java 8, or the line of the token at which it fails. At most three
phrases start at one token, so four times the tokens bound the depth of nesting. -/
def read (text : String) : Except (Option Nat) UnitDecl :=
  match tokens text with
  | none => .error none
  | some ts =>
    match (compilationUnit (phrases (4 * ts.length + 8))).run { rest := ts } with
    | (.ok unit, _) => .ok unit
    | (.error (.refused line), _) => .error line
    | (.error .exhausted, _) => .error none

end JavaAtlas.Java.Classic
