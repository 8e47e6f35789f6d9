import JavaAtlas.Java.Modern.Statement

/-! Types of current Java and their members. A type's line is that of its first token, modifiers and
annotations included. Records are read and not reported. -/

namespace JavaAtlas.Java.Modern

open Reader

/-- The start of a declaration. -/
def lead (table : Table) : Reader Lead := do
  let line := (← look 0).map Token.line
  let words ← modifiers table true
  return ⟨line, Modifier.ordered words⟩

/-- The superclass. A comment in front of it is listed first, and taken for it. -/
def superclassClause (table : Table) : Reader (Option TypeSpec) := do
  if ← try1 "extends" then
    let comments ← leadingComments
    let spec ← annotatedType table
    return (comments ++ [spec]).head?
  else return none

/-- The types that may extend a sealed type. They are not reported. -/
def permitsClause (table : Table) : Reader Unit := do
  let _ ← typesAfter table "permits"

def typeReaders (table : Table) : TypeReaders where
  typeParameters := typeParameters table
  superclass := superclassClause table
  typesAfter := typesAfter table
  clauses := permitsClause table
  nextAnnotationType := nextAnnotationType
  annotationTypeMark := annotationTypeMark
  body b := table (.body b)

def recordDeclaration (table : Table) : Reader Unit := do
  expect "record"
  let _ ← identifier
  if ← next "<" then typeParameters table
  let _ ← parameters table
  let _ ← typesAfter table "implements"
  table.skip (.body .ofClass)

/-- A type declaration after its modifiers, if the next tokens start one. The word `record` starts
one only where it is told to. -/
def typeDeclaration? (table : Table) (lead : Lead) (records : Bool) :
    Reader (Option Members) := do
  match ← (typeReaders table).declaration? lead with
  | some t => return some (.ofType t)
  | none =>
    if records && (← next "record") then
      recordDeclaration table
      return some {}
    else return none

/-- A method after its name. -/
def methodRest (table : Table) (lead : Lead) (spec : TypeSpec) (name : String) :
    Reader MethodDecl := do
  let params ← parameters table
  let extra ← dimensions table
  let throws ← typesAfter table "throws"
  if ← next leftBrace then block table else expect ";"
  return {
    name, returns := some ⟨spec.name, spec.dims + extra⟩, params, modifiers := lead.modifiers
    throws }

/-- A method after its type parameters and modifiers. -/
def method (table : Table) (lead : Lead) : Reader MethodDecl := do
  let spec ← type table
  methodRest table lead spec (← identifier)

/-- A method with type parameters, after its modifiers. -/
def genericMethod (table : Table) (lead : Lead) : Reader MethodDecl := do
  typeParameters table
  annotations table
  method table lead

/-- The call of another constructor, with which a constructor may start. -/
def constructorCall (table : Table) : Reader Unit := do
  let direct : Reader Unit := do
    if ← next "<" then table.skip .typeArguments
    let _ ← take fun t => t.is "this" || t.is "super"
    arguments table
    expect ";"
  let qualified : Reader Unit := do
    if ← sees [fun t => statementWords.contains t.text && !operandWords.contains t.text] then refuse
    let _ ← primary table
    let _ ← repeated do
      match ← attempt (selector? table) with
      | some (some form) => return some form
      | _ => return none
    expect "."
    if ← next "<" then table.skip .typeArguments
    expect "super"
    arguments table
    expect ";"
  orElse direct qualified

/-- The body of a constructor. -/
def constructorBody (table : Table) : Reader Unit := do
  expect leftBrace
  let _ ← attempt (constructorCall table)
  let _ ← untilNext rightBrace (table.skip .statement)
  expect rightBrace

/-- A constructor after its type parameters. -/
def constructor (table : Table) (lead : Lead) : Reader MethodDecl := do
  let name ← identifier
  let params ← parameters table
  let throws ← typesAfter table "throws"
  constructorBody table
  return { name, params, modifiers := lead.modifiers, isConstructor := true, throws }

/-- Fields after the name of the first one. -/
def fieldsRest (table : Table) (lead : Lead) (spec : TypeSpec) (name : String) :
    Reader Members := do
  let extra ← dimensions table
  if ← try1 "=" then table.skip .initializer
  let more ← repeated do
    if ← try1 "," then return some (← declarator table) else return none
  expect ";"
  return { fields := ((name, extra) :: more).map fun (name, extra) =>
    { name, type := ⟨spec.name, spec.dims + extra⟩, modifiers := lead.modifiers } }

/-- A method or fields after their modifiers. -/
def methodOrFields (table : Table) (lead : Lead) : Reader Members := do
  let spec ← type table
  let name ← identifier
  if name != "_" && (← next "(") then return .ofMethod (← methodRest table lead spec name)
  else fieldsRest table lead spec name

/-- A name that no type is known by, in front of a mark. -/
def nextNameBefore (mark : String) : Reader Bool :=
  sees [Token.isWordExcept typeWords, Token.is mark]

/-- A member of a class. A name right before a parenthesis is a constructor's. -/
def classMember (table : Table) : Reader Members := do
  let start ← lead table
  match ← typeDeclaration? table start true with
  | some m => return m
  | none =>
    if ← next "<" then
      typeParameters table
      if ← nextNameBefore "(" then return .ofMethod (← constructor table start)
      else
        annotations table
        return .ofMethod (← method table start)
    else if ← nextNameBefore "(" then return .ofMethod (← constructor table start)
    else if ← nextNameBefore leftBrace then
      let _ ← identifier
      block table
      return {}
    else methodOrFields table start

/-- A member of an interface. -/
def interfaceMember (table : Table) : Reader Members := do
  if ← try1 ";" then return {}
  let start ← lead table
  match ← typeDeclaration? table start true with
  | some m => return m
  | none =>
    if ← next "<" then return .ofMethod (← genericMethod table start)
    else methodOrFields table start

/-- A constant of an enum; its arguments and its body are not reported. -/
def enumConstant (table : Table) : Reader String := do
  let _ ← anyModifiers table
  let name ← identifier
  if ← next "(" then arguments table
  if ← next leftBrace then table.skip (.body .ofClass)
  return name

/-- The constants of an enum. A comma may follow the last one, or stand alone. -/
def enumConstants (table : Table) : Reader (List String) := do
  let first ← if ← nextIn [",", ";", rightBrace] then pure [] else pure [← enumConstant table]
  let more ← if first.isEmpty then pure [] else repeated do
    if (← nextAll [",", rightBrace]) || (← nextAll [",", ";"]) then return none
    if ← try1 "," then return some (← enumConstant table) else return none
  let _ ← try1 ","
  return first ++ more

/-- An element of an annotation type after its name. -/
def elementRest (table : Table) (lead : Lead) (spec : TypeSpec) (name : String) :
    Reader MethodDecl := do
  expect "("
  expect ")"
  let extra ← dimensions table
  if ← try1 "default" then table.skip .elementValue
  expect ";"
  return { name, returns := some ⟨spec.name, spec.dims + extra⟩, modifiers := lead.modifiers }

/-- A part of an annotation type: a member type, an element or constants. -/
def annotationPart (table : Table) : Reader Members := do
  if ← try1 ";" then return {}
  let start ← lead table
  match ← typeDeclaration? table start false with
  | some m => return m
  | none =>
    let spec ← type table
    let name ← identifier
    if name != "_" && (← next "(") then return .ofMethod (← elementRest table start spec name)
    else fieldsRest table start spec name

def bodyReaders (table : Table) : BodyReaders where
  block := block table
  classMember := classMember table
  interfaceMember := interfaceMember table
  constants := enumConstants table
  annotationElement := annotationPart table

end JavaAtlas.Java.Modern
