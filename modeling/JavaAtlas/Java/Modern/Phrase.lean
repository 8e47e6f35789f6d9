import JavaAtlas.Generics
import JavaAtlas.Java.Body
import JavaAtlas.Java.Modern.Word
import JavaAtlas.Modifier

/-! The phrases of current Java that contain each other, and the readers of types, annotations and
variables that all of them share. The name of a type is the text it stands as, without type
arguments and blanks, so comments and annotations inside it stay. -/

namespace JavaAtlas.Java.Modern

/-- The phrases that contain each other. -/
inductive Phrase where
  | typeArguments
  | elementValue
  | expression
  | operand
  | initializer
  | statement
  | body (b : Body)
deriving DecidableEq

/-- A reader for every phrase. Only the bodies of types have members to report. -/
abbrev Table := Phrase → Reader Members

/-- Reads a phrase of which nothing is reported. -/
def Table.skip (table : Table) (phrase : Phrase) : Reader Unit := do let _ ← table phrase

def Table.value (table : Table) : Reader Unit := table.skip .expression

open Reader

/-- Reads, and tells the tokens that were taken. -/
def withTokens {α : Type} (r : Reader α) : Reader (α × List Token) := do
  let before ← ahead
  let a ← r
  let after ← ahead
  return (a, before.take (before.length - after.length))

/-- A dotted name. -/
def qualifiedName : Reader Unit := do
  let _ ← identifier
  let _ ← repeated do
    if ← sees [Token.is ".", Token.isWord] then
      expect "."
      return some (← identifier)
    else return none

/-- The arguments of an annotation: one value, or values with names. -/
def annotationArguments (table : Table) : Reader Unit := do
  expect "("
  if ← try1 ")" then return
  if ← sees [Token.isWordExcept valueWords, Token.is "="] then
    let _ ← separated "," do
      let _ ← identifier
      expect "="
      table.skip .elementValue
  else table.skip .elementValue
  expect ")"

/-- An annotation with its arguments. -/
def annotationUse (table : Table) : Reader Unit := do
  expect "@"
  qualifiedName
  if ← next "(" then annotationArguments table

/-- Annotations, and how many there are. -/
def annotationCount (table : Table) : Reader Nat := do
  return (← repeated (whenNext "@" (annotationUse table))).length

def annotations (table : Table) : Reader Unit := do let _ ← annotationCount table

/-- Items in braces with commas between them. A comma may follow the last one, or stand alone. -/
def bracedItems (item : Reader Unit) : Reader Unit := do
  expect leftBrace
  if !(← nextIn [",", rightBrace]) then
    item
    let _ ← repeated do
      if (← next ",") && !(← nextAll [",", rightBrace]) then
        expect ","
        return some (← item)
      else return none
  let _ ← try1 ","
  expect rightBrace

/-- The value of an annotation's element: an annotation, a list of values or an expression. An
annotation may also start an expression. -/
def elementValue (table : Table) : Reader Unit := do
  if ← next leftBrace then bracedItems (table.skip .elementValue)
  else if ← next "@" then
    let start ← ahead
    annotationUse table
    if !(← nextIn [",", ")", ";", rightBrace]) then
      goOnFrom start
      table.value
  else table.value

/-- Pairs of square brackets, each of which may be annotated. Their number is that of the opening
brackets in the text. -/
def dimensions (table : Table) : Reader Nat := do
  let (_, taken) ← withTokens do
    let _ ← repeated do
      attempt do
        annotations table
        expect "["
        expect "]"
  return (sourceText taken).toList.count '['

/-- The segments of a type's name after the first, each after a point and with its own type
arguments. They end before the word `class` if that is asked for. -/
def typeSegments (table : Table) (beforeClass : Bool) : Reader Unit := do
  if ← next "<" then table.skip .typeArguments
  let _ ← repeated do
    if beforeClass && (← nextAll [".", "class"]) then return none
    if ← sees [Token.is ".", fun t => t.isWord || t.is "@"] then
      expect "."
      annotations table
      let _ ← identifier
      if ← next "<" then table.skip .typeArguments
      return some ()
    else return none

/-- A type without dimensions. Its first word is none of those given. -/
def simpleType (table : Table) (words : List String) : Reader Unit := do
  if ← nextIn typeWords then
    let _ ← any
  else
    let _ ← wordExcept words
    typeSegments table false

/-- The name that some tokens stand for as a type. -/
def typeName (taken : List Token) : String :=
  String.ofList (Generics.compact (sourceText taken).toList)

/-- A type with its dimensions. Its first word is none of those given. -/
def typeExcept (table : Table) (words : List String) : Reader TypeSpec := do
  let (_, taken) ← withTokens (simpleType table words)
  return ⟨typeName taken, ← dimensions table⟩

def type (table : Table) : Reader TypeSpec := typeExcept table []

/-- A type with annotations in front, which are no part of its name. -/
def annotatedType (table : Table) : Reader TypeSpec := do
  annotations table
  type table

/-- A type that may be annotated. Its first word is none of those given, or after one annotation
none of those given for that; a second annotation tells that a type follows. -/
def openingType (table : Table) (words annotatedWords : List String) : Reader Unit := do
  let keywords := match ← annotationCount table with
    | 0 => words
    | 1 => annotatedWords
    | _ => []
  let _ ← typeExcept table keywords

/-- A type with its dimensions, where something else could stand as well. -/
def typeAmong (table : Table) (words : Keywords) : Reader TypeSpec := do
  let (spec, taken) ← withTokens (typeExcept table words.first)
  if taken.length == 1 && taken.all (Token.isWordExcept typeWords) then
    if ← nextIn words.second then refuse
  return spec

/-- The comments in front of the next token, as a list of types counts them. -/
def leadingComments : Reader (List TypeSpec) := do
  let comments := ((← look 0).map Token.comments).getD []
  return comments.map fun c => ⟨String.ofList (Generics.compact c.toList), 0⟩

/-- Types with commas between them. A comment in front of a type or a comma is listed like a
type. -/
def typeList (table : Table) : Reader (List TypeSpec) := do
  let comments ← leadingComments
  let first ← annotatedType table
  let rest ← repeated do
    if ← next "," then
      let beforeComma ← leadingComments
      expect ","
      let beforeType ← leadingComments
      return some (beforeComma ++ beforeType ++ [← annotatedType table])
    else return none
  return comments ++ first :: rest.flatten

/-- The types after a keyword. -/
def typesAfter (table : Table) (word : String) : Reader (List TypeSpec) := do
  if ← try1 word then typeList table else return []

/-- A type argument: a type, or a wildcard with or without a bound. -/
def typeArgument (table : Table) : Reader Unit := do
  annotations table
  if ← try1 "?" then
    if ← nextIn ["extends", "super"] then
      let _ ← any
      let _ ← annotatedType table
  else
    let _ ← type table

/-- Type arguments in angle brackets. There may be none. -/
def typeArguments (table : Table) : Reader Unit := do
  expect "<"
  if ← try1 ">" then return
  let _ ← separated "," (typeArgument table)
  expect ">"

/-- Type parameters in angle brackets, with their bounds. -/
def typeParameters (table : Table) : Reader Unit := do
  expect "<"
  let _ ← separated "," do
    annotations table
    let _ ← identifier
    if ← try1 "extends" then
      let _ ← separated "&" (annotatedType table)
  expect ">"

/-- A modifier or an annotation, if one comes next. Where an annotation type may be declared, its
mark is none. -/
def modifier? (table : Table) (declares : Bool) : Reader (Option (List String)) := do
  if ← nextHyphenated then return some [← hyphenated]
  else if ← nextIn modifierWords then return some [(← any).text]
  else if (← next "@") && !(declares && (← nextAnnotationType)) then
    annotationUse table
    return some []
  else return none

/-- Modifiers and annotations in any order. The modifiers are reported. -/
def modifiers (table : Table) (declares : Bool) : Reader (List String) := do
  return (← repeated (modifier? table declares)).flatten

/-- Tells whether there are modifiers or annotations, and takes them. -/
def anyModifiers (table : Table) : Reader Bool := do
  return !(← repeated (modifier? table false)).isEmpty

/-- A variable's name, with the dimensions after it. -/
def variableName (table : Table) : Reader (String × Nat) := do
  let name ← identifier
  return (name, ← dimensions table)

/-- A variable with the value it starts with. -/
def declarator (table : Table) : Reader (String × Nat) := do
  let v ← variableName table
  if ← try1 "=" then table.skip .initializer
  return v

/-- Statements in braces. -/
def block (table : Table) : Reader Unit := do
  expect leftBrace
  let _ ← untilNext rightBrace (table.skip .statement)
  expect rightBrace

end JavaAtlas.Java.Modern
