import JavaAtlas.Java.Members
import JavaAtlas.Java.Reader

/-! Declarations of types and their bodies. All grammars read them along the same lines; what differs
is how the parts of a header and the members of a body are read. -/

namespace JavaAtlas.Java

open Reader

/-- The bodies of types. -/
inductive Body where
  | ofClass
  | ofInterface
  | ofEnum (name : String)
  | ofAnnotationType
deriving DecidableEq

/-- The start of a declaration: its line and its modifiers in canonical order. -/
structure Lead where
  line : Option Nat
  modifiers : List String

/-- A type declaration out of its parts. -/
def typeOf (kind : TypeKind) (name : String) (lead : Lead) (superclass : Option TypeSpec)
    (interfaces : List TypeSpec) (body : Members) : TypeDecl :=
  { kind, name, modifiers := lead.modifiers, superclass, interfaces, fields := body.fields
    methods := body.methods, nested := body.types, line := lead.line.map Int.ofNat }

/-- The readers for the parts of a type declaration. -/
structure TypeReaders where
  typeParameters : Reader Unit
  superclass : Reader (Option TypeSpec)
  /-- The types after a keyword, if it comes next. -/
  typesAfter (keyword : String) : Reader (List TypeSpec)
  /-- What else may stand in the header of a class or an interface. -/
  clauses : Reader Unit
  nextAnnotationType : Reader Bool
  annotationTypeMark : Reader Unit
  body : Body → Reader Members

namespace TypeReaders

variable (r : TypeReaders) (lead : Lead)

def classDeclaration : Reader TypeDecl := do
  expect "class"
  let name ← identifier
  if ← next "<" then r.typeParameters
  let superclass ← r.superclass
  let interfaces ← r.typesAfter "implements"
  r.clauses
  let body ← r.body .ofClass
  return typeOf .classType name lead superclass interfaces body

def interfaceDeclaration : Reader TypeDecl := do
  expect "interface"
  let name ← identifier
  if ← next "<" then r.typeParameters
  let interfaces ← r.typesAfter "extends"
  r.clauses
  let body ← r.body .ofInterface
  return typeOf .interfaceType name lead none interfaces body

def enumDeclaration : Reader TypeDecl := do
  expect "enum"
  let name ← identifier
  let interfaces ← r.typesAfter "implements"
  let body ← r.body (.ofEnum name)
  return typeOf .enumType name lead none interfaces body

def annotationDeclaration : Reader TypeDecl := do
  r.annotationTypeMark
  let name ← identifier
  let body ← r.body .ofAnnotationType
  return typeOf .annotationType name lead none [] body

/-- A type declaration after its modifiers, if the next tokens start one. -/
def declaration? : Reader (Option TypeDecl) := do
  if ← next "class" then return some (← r.classDeclaration lead)
  else if ← next "interface" then return some (← r.interfaceDeclaration lead)
  else if ← next "enum" then return some (← r.enumDeclaration lead)
  else if ← r.nextAnnotationType then return some (← r.annotationDeclaration lead)
  else return none

end TypeReaders

/-- The field that an enum's constant stands for. -/
def constantField (enumName name : String) : FieldDecl :=
  { name, type := ⟨enumName, 0⟩, modifiers := ["public", "static", "final"] }

/-- Members in braces. -/
def braced (part : Reader Members) : Reader Members := do
  expect leftBrace
  let parts ← untilNext rightBrace part
  expect rightBrace
  return .concat parts

/-- The readers for the parts of bodies. -/
structure BodyReaders where
  block : Reader Unit
  classMember : Reader Members
  interfaceMember : Reader Members
  /-- The names of an enum's constants. -/
  constants : Reader (List String)
  annotationElement : Reader Members

namespace BodyReaders

variable (r : BodyReaders)

/-- A part of a class body: a semicolon, a block of code or a member. -/
def classPart : Reader Members := do
  if ← try1 ";" then return {}
  else if ← nextAll ["static", leftBrace] then
    expect "static"
    r.block
    return {}
  else if ← next leftBrace then
    r.block
    return {}
  else r.classMember

/-- The body of an enum: its constants, then its members. -/
def enumBody (enumName : String) : Reader Members := do
  expect leftBrace
  let names ← r.constants
  let parts ← if ← try1 ";" then untilNext rightBrace r.classPart else pure []
  expect rightBrace
  return { fields := names.map (constantField enumName) } ++ .concat parts

def body : Body → Reader Members
  | .ofClass => braced r.classPart
  | .ofInterface => braced r.interfaceMember
  | .ofEnum name => r.enumBody name
  | .ofAnnotationType => braced r.annotationElement

end BodyReaders

end JavaAtlas.Java
