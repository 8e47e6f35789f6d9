import JavaAtlas.Java.Modern.Parameter

/-! Expressions of current Java. Nothing in them is reported, so the readers only tell where they
end. -/

namespace JavaAtlas.Java.Modern

open Reader

/-- The arguments of a call. -/
def arguments (table : Table) : Reader Unit := do
  expect "("
  if ← try1 ")" then return
  let _ ← separated "," table.value
  expect ")"

def parenthesized (table : Table) : Reader Unit := do
  expect "("
  table.value
  expect ")"

/-- The modifiers that are no names either. -/
def hardModifiers : List String := modifierWords.erase "sealed"

/-- A modifier comes next, and it is no name. -/
def nextHardModifier : Reader Bool := do
  return (← nextIn hardModifiers) || (← nextHyphenated)

/-- An expression in parentheses, where these could be those of a lambda's parameters as well. -/
def groupedValue (table : Table) : Reader Unit := do
  expect "("
  if ← nextHardModifier then refuse
  table.value
  expect ")"

/-- Initial values of an array's elements in braces. -/
def arrayInitializer (table : Table) : Reader Unit := bracedItems (table.skip .initializer)

def initializer (table : Table) : Reader Unit := do
  if ← next leftBrace then arrayInitializer table else table.value

/-- An expression follows this part of a string. -/
def Token.opensExpression (t : Token) : Bool :=
  t.kind == .fragment && ['\x7b', '\\'].isPrefixOf t.text.toList.reverse

/-- A string, with the expressions inside it. -/
def stringLiteral (table : Table) : Reader Unit := do
  let t ← take fun t => t.isLiteral || t.kind == .fragment
  if Token.opensExpression t then
    let _ ← repeated do
      table.value
      expect rightBrace
      let part ← take fun t => t.kind == .fragment
      if Token.opensExpression part then return some () else return none

def nextLiteral : Reader Bool := sees [fun t => t.isLiteral || t.kind == .fragment]

/-- What follows `::`. -/
def referenceEnd (table : Table) : Reader Unit := do
  expect "::"
  if ← next "<" then table.skip .typeArguments
  let _ ← identifier

/-- What follows `new` to create an object: its class, with arguments and perhaps a body. -/
def objectCreator (table : Table) : Reader Unit := do
  annotations table
  if ← next "<" then
    table.skip .typeArguments
    annotations table
  simpleType table []
  arguments table
  if ← next leftBrace then table.skip (.body .ofClass)

/-- What follows `new` to create an array: its dimensions, or its elements. -/
def arrayCreator (table : Table) : Reader Unit := do
  annotations table
  simpleType table []
  let sized ← repeated do
    attempt do
      annotations table
      expect "["
      table.value
      expect "]"
  let unsized ← dimensions table
  if !sized.isEmpty then
    if ← next "[" then refuse
  else if unsized == 0 then refuse
  else arrayInitializer table

/-- What an expression without operators ends as. Only some forms can be assigned to. -/
inductive Form where
  | name
  | softName
  | field
  | element
  | other
deriving DecidableEq

/-- A name after a point or at the start, which is a call if arguments follow it. -/
def callOr (table : Table) (form : Form) : Reader Form := do
  if ← next "(" then
    arguments table
    return .other
  else return form

/-- A member of an object: a field, a call, or the object itself. -/
def namedMember (table : Table) : Reader Form := do
  if ← next "<" then
    table.skip .typeArguments
    let _ ← identifier
    arguments table
    return .other
  else if ← try1 "this" then return .field
  else
    let _ ← identifier
    callOr table .field

/-- What follows a point after an expression. -/
def member (table : Table) : Reader Form := do
  if ← try1 "new" then
    objectCreator table
    return .other
  else if ← try1 "super" then
    expect "."
    namedMember table
  else if ← nextLiteral then
    if ← sees [fun t => t.text.toList.head? == some quote] then
      stringLiteral table
      return .other
    else refuse
  else namedMember table

/-- A step from an expression to a part of it, if one comes next. -/
def selector? (table : Table) : Reader (Option Form) := do
  if ← try1 "." then return some (← member table)
  else if ← try1 "[" then
    table.value
    expect "]"
    return some .element
  else if ← next "::" then
    referenceEnd table
    return some .other
  else return none

/-- A reference to a method or constructor of a type. -/
def typeReference (table : Table) : Reader Unit := do
  openingType table operandWords []
  referenceEnd table

/-- The class object of a type that is more than a dotted name. -/
def classLiteral (table : Table) : Reader Unit := do
  let (plain, _) ← withTokens do
    if ← nextIn typeWords then
      let _ ← any
      return false
    else
      let _ ← wordExcept operandWords
      let (_, taken) ← withTokens (typeSegments table true)
      return !taken.any fun t => ["<", "@", "new"].contains t.text
  let extra ← dimensions table
  if plain && extra == 0 then refuse
  expect "."
  expect "class"

/-- A name, or a type that a class object or a reference to a method is taken from. -/
def namedPrimary (table : Table) : Reader Form := do
  if (← attempt (typeReference table)).isSome then return .other
  else if (← attempt (classLiteral table)).isSome then return .other
  else
    let name ← wordExcept valueWords
    callOr table (if softWords.contains name then .softName else .name)

/-- What follows `super`. -/
def superMember (table : Table) : Reader Form := do
  if ← next "::" then
    referenceEnd table
    return .other
  else
    expect "."
    if ← try1 "super" then expect "."
    namedMember table

/-- An expression without operators and selectors. -/
def primary (table : Table) : Reader Form := do
  if ← nextLiteral then
    stringLiteral table
    return .other
  else if ← next "(" then
    groupedValue table
    return .other
  else if ← nextIn ["false", "null", "this", "true"] then
    let _ ← any
    return .other
  else if ← try1 "super" then superMember table
  else if ← try1 "new" then
    orElse (objectCreator table) (arrayCreator table)
    return .other
  else namedPrimary table

/-- The form of an expression with all selectors after it. -/
def selectors (table : Table) (form : Form) : Reader Form := do
  return (← repeated (selector? table)).getLastD form

/-- An expression without operators. -/
def selected (table : Table) : Reader Form := do selectors table (← primary table)

/-- An expression without operators, where the word `switch` is a name. -/
def selectedNoSwitch (table : Table) : Reader Form := do
  let form ← if ← try1 "switch" then callOr table .name else primary table
  selectors table form

/-- The body of a lambda after its parameters. -/
def lambdaBody (table : Table) : Reader Unit := do
  expect "->"
  if ← next leftBrace then block table else table.value

/-- The parameters of a lambda in parentheses. -/
def lambdaParameters (table : Table) : Reader Unit := do
  let names : Reader Unit := do
    expect "("
    let _ ← wordExcept (valueWords ++ hardModifiers)
    let _ ← repeated do
      if ← try1 "," then return some (← identifier) else return none
    expect ")"
    if !(← next "->") then refuse
  if (← attempt names).isNone then
    let _ ← parametersAmong table lambdaKeywords

/-- A lambda, if one comes next. Without parentheses its parameter is none of these words. -/
def lambda? (table : Table) (words : List String) : Reader Bool := do
  if ← sees [Token.isWordExcept words, Token.is "->"] then
    let _ ← identifier
    lambdaBody table
    return true
  else if ← next "(" then
    let read : Reader Unit := do
      lambdaParameters table
      lambdaBody table
    return (← attempt read).isSome
  else return false

/-- The word `instanceof` or `when` comes next, and not as a name: what follows it cannot follow a
name. -/
def nextConnective : Reader Bool :=
  sees [fun t => t.is "instanceof" || t.is "when",
    fun t => t.isWordExcept ["instanceof"] || t.isLiteral || ["!", "~", "@"].contains t.text]

/-- A value in parentheses comes to its end here, with operators after it that could also stand in
front of a name. -/
def nextValueEnd (table : Table) : Reader Bool :=
  fitsHere do
    let _ ← repeated do
      if ← nextIn ["++", "--"] then return some (← any) else return none
    if ← nextConnective then return
    expect "when"
    lambdaParameters table
    expect "->"

/-- A cast with its operand. After several types the operand has no operators. -/
def cast (table : Table) : Reader Unit := do
  expect "("
  openingType table openingWords modifierWords
  let more ← repeated do
    if ← try1 "&" then return some (← annotatedType table) else return none
  expect ")"
  if more.isEmpty then
    if ← nextValueEnd table then refuse
    table.skip .operand
  else if !(← lambda? table (valueWords.erase "switch")) then
    let _ ← selectedNoSwitch table

def prefixOperators : List String := ["++", "--", "!", "~", "+", "-"]

def assignmentOperators : List String :=
  ["=", "+=", "-=", "*=", "/=", "&=", "|=", "^=", "%=", "<<="]

def infixOperators : List String :=
  ["||", "&&", "|", "^", "&", "==", "!=", "<", "<=", "<<", "+", "-", "*", "/", "%"]

/-- The closing angle brackets of an operator, with the token after them. -/
def angles : List Token → Nat × Option Token
  | t :: u :: ts =>
    if !t.is ">" then (0, none)
    else if u.is ">" && u.isAdjacent then
      match ts with
      | v :: w :: _ =>
        if v.is ">" && v.isAdjacent then (3, some w) else (2, some v)
      | [v] => if v.is ">" && v.isAdjacent then (3, none) else (2, some v)
      | [] => (2, none)
    else (1, some u)
  | [t] => if t.is ">" then (1, none) else (0, none)
  | [] => (0, none)

/-- An operator that assigns, if one comes next. -/
def assignment? : Reader Bool := do
  if ← nextIn assignmentOperators then
    let _ ← any
    return true
  else
    match angles (← ahead) with
    | (n, some t) =>
      if 2 ≤ n && t.is "=" && t.isAdjacent then
        goOnFrom ((← ahead).drop (n + 1))
        return true
      else return false
    | (_, none) => return false

/-- An operator between two operands, if one comes next. Closing angle brackets right behind each
other make one operator, with an equals sign behind a single one. -/
def infix? : Reader Bool := do
  if ← nextIn infixOperators then
    let _ ← any
    return true
  else
    match angles (← ahead) with
    | (0, _) => return false
    | (n, some t) =>
      if t.isAdjacent && t.is "==" then return false
      else if t.isAdjacent && t.is "=" then
        if n == 1 then
          goOnFrom ((← ahead).drop 2)
          return true
        else return false
      else
        goOnFrom ((← ahead).drop n)
        return true
    | (n, none) =>
      goOnFrom ((← ahead).drop n)
      return true

/-- A name, a field or an element with a value assigned to it, or any expression without
operators. -/
def assigned (table : Table) : Reader Unit := do
  let form ← selected table
  if form != .other then
    if ← assignment? then table.value

/-- A record, taken apart. A label of a switch could be a call as well, up to the second component;
so far the words that start an expression are no names. -/
def recordPattern (table : Table) (inLabel : Bool) (component : Bool → Reader Unit) :
    Reader Unit := do
  let (_, taken) ← withTokens do
    let _ ← wordExcept (if inLabel then valueWords else typeWords)
    typeSegments table false
  let generic := taken.getLast?.any (Token.is ">")
  if taken.any (Token.is ".") && !generic then refuse
  if generic && taken.head?.any (fun t => softWords.contains t.text) then refuse
  expect "("
  if !(← next ")") then
    component (inLabel && !generic)
    let _ ← repeated do
      if ← try1 "," then return some (← component false) else return none
  expect ")"

/-- A component of a record pattern, up to a depth of nesting. It may be left out with a low
line. -/
def component (table : Table) (depth : Nat) (inLabel : Bool) : Reader Unit :=
  match depth with
  | 0 => refuse
  | depth + 1 => do
    if ← try1 "_" then return
    else if (← attempt (recordPattern table inLabel (component table depth))).isSome then return
    else
      let _ ← typeExcept table (if inLabel then operandWords else softWords)
      let _ ← identifier

def pattern (table : Table) (inLabel : Bool) : Reader Unit := do
  recordPattern table inLabel (component table (← ahead).length)

/-- The next token goes on with a value, or with a name in front of it. -/
def nextContinuation : Reader Bool := do
  if ← nextIn ["instanceof", "when"] then return !(← nextConnective)
  else if ← sees [fun t => t.isWord || t.isLiteral || t.kind == .fragment] then return true
  else nextIn (["(", "[", ".", "::", "->", "!", "~", "@"] ++ assignmentOperators)

/-- A type and perhaps a name for the value. What looks like type arguments may be operators, if a
value follows. -/
def testedType (table : Table) : Reader Unit := do
  let (_, taken) ← withTokens (openingType table softWords [])
  if ← sees [Token.isWordExcept ["instanceof", "when"]] then
    let _ ← identifier
  let closing := taken.reverse.map Token.text
  if closing.head? == some ">" && closing.take 2 != [">", "<"] then
    if ← nextContinuation then refuse

/-- A type whose name ends before an operator that looks like the start of its type arguments. -/
def comparedType (table : Table) : Reader Unit := do
  annotations table
  let _ ← wordExcept (typeWords ++ softWords)
  let _ ← repeated do
    attempt do
      if ← next "<" then table.skip .typeArguments
      expect "."
      annotations table
      identifier
  if !(← next "<") then refuse

/-- What follows `instanceof`. -/
def typeTest (table : Table) : Reader Unit := do
  let _ ← try1 "final"
  if (← attempt (pattern table false)).isNone then
    orElse (testedType table) (comparedType table)

/-- What may follow an operand, if any of it comes next. -/
def operation? (table : Table) : Reader Bool := do
  if ← nextIn ["++", "--"] then
    let _ ← any
    return true
  else if ← try1 "instanceof" then
    typeTest table
    return true
  else if ← try1 "?" then
    table.value
    expect ":"
    table.value
    return true
  else if ← infix? then
    table.skip .operand
    return true
  else return false

/-- All that follows the first operand of an expression. -/
def operations (table : Table) : Reader Unit := do
  let _ ← repeated do
    if ← operation? table then return some () else return none

/-- An expression. -/
def expression (table : Table) : Reader Unit := do
  table.skip .operand
  operations table

end JavaAtlas.Java.Modern
