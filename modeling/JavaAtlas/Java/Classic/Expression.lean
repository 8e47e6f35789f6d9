import JavaAtlas.Java.Classic.Phrase

/-! Expressions of Java 8. Nothing in them is reported, so the readers only tell where they end. -/

namespace JavaAtlas.Java.Classic

open Reader

def assignmentOperators : List String :=
  ["=", "+=", "-=", "*=", "/=", "&=", "|=", "^=", "%=", "<<=", ">>=", ">>>="]

def infixOperators : List String :=
  ["||", "&&", "|", "^", "&", "==", "!=", "<", ">", "<=", ">=", "<<", ">>", ">>>", "+", "-", "*",
    "/", "%"]

def prefixOperators : List String := ["++", "--", "!", "~", "+", "-"]

/-- The arguments of a call. -/
def arguments (table : Table) : Reader Unit := do
  expect "("
  if ← try1 ")" then return
  let _ ← separated "," (table.skip .expression)
  expect ")"

def parenthesized (table : Table) : Reader Unit := do
  expect "("
  table.skip .expression
  expect ")"

/-- Initial values of an array's elements in braces. A comma may follow the last one. -/
def arrayInitializer (table : Table) : Reader Unit := do
  expect leftBrace
  if ← try1 "," then
    expect rightBrace
    return
  if ← try1 rightBrace then return
  let _ ← repeated do
    table.skip .initializer
    if !(← next rightBrace) then expect ","
    if ← next rightBrace then return none else return some ()
  expect rightBrace

def initializer (table : Table) : Reader Unit := do
  if ← next leftBrace then arrayInitializer table else table.skip .expression

/-- What follows `super`: the arguments of a constructor, or a member. -/
def superSuffix (table : Table) : Reader Unit := do
  if ← try1 "." then
    if ← next "<" then plainTypeArguments table
    let _ ← identifier
    if ← next "(" then arguments table
  else arguments table

/-- What follows the type arguments of a call. -/
def genericCallSuffix (table : Table) : Reader Unit := do
  if ← try1 "super" then superSuffix table
  else
    let _ ← identifier
    arguments table

def genericCall (table : Table) : Reader Unit := do
  plainTypeArguments table
  genericCallSuffix table

/-- The arguments of a constructor, and the body of an anonymous class. -/
def classCreatorRest (table : Table) : Reader Unit := do
  arguments table
  if ← next leftBrace then table.skip (.body .ofClass)

/-- The dimensions of a new array, with its initial values if no dimension is given. -/
def arrayCreatorRest (table : Table) : Reader Unit := do
  if ← nextAll ["[", "]"] then
    let _ ← dimensions
    arrayInitializer table
  else
    let _ ← repeated do
      if (← next "[") && !(← nextAll ["[", "]"]) then
        expect "["
        table.skip .expression
        expect "]"
        return some ()
      else return none
    let _ ← dimensions

/-- The class that is created. Its type arguments may be left to be inferred. -/
def createdName (table : Table) : Reader Unit := do
  let _ ← separated "." do
    let _ ← identifier
    if ← next "<" then
      if !(← tryAll ["<", ">"]) then table.skip .typeArguments

/-- What follows `new`. -/
def creator (table : Table) : Reader Unit := do
  if ← sees [Token.isBasicType] then
    let _ ← any
    arrayCreatorRest table
  else
    let generic ← next "<"
    if generic then plainTypeArguments table
    createdName table
    if ← next "[" then
      if generic then refuse
      arrayCreatorRest table
    else classCreatorRest table

/-- What follows `new` after an expression and a dot. -/
def innerCreator (table : Table) : Reader Unit := do
  if ← next "<" then plainTypeArguments table
  let _ ← identifier
  if ← next "<" then
    if !(← tryAll ["<", ">"]) then plainTypeArguments table
  classCreatorRest table

/-- What follows a dotted name in an expression. -/
def nameSuffix (table : Table) : Reader Unit := do
  if ← tryAll ["[", "]"] then
    let _ ← dimensions
    expect "."
    expect "class"
  else if ← next "(" then arguments table
  else if ← tryAll [".", "class"] then return
  else if ← tryAll [".", "this"] then return
  else if ← nextAll [".", "<"] then
    expect "."
    genericCall table
  else if ← tryAll [".", "new"] then innerCreator table
  else if ← nextAll [".", "super", "("] then
    expect "."
    expect "super"
    arguments table

/-- A step from an expression into it: an index, or a member after a dot. -/
def selector (table : Table) : Reader Unit := do
  if ← try1 "[" then
    table.skip .expression
    expect "]"
  else
    expect "."
    if ← sees [Token.isWord] then
      let _ ← identifier
      if ← next "(" then arguments table
    else if ← nextAll ["super", "::"] then expect "super"
    else if ← next "<" then genericCall table
    else if ← try1 "this" then return
    else if ← try1 "super" then superSuffix table
    else if ← try1 "new" then innerCreator table
    else refuse

/-- An expression without operators and selectors. -/
def primary (table : Table) : Reader Unit := do
  match ← look 0 with
  | none => refuse
  | some t =>
    if t.isLiteral then
      let _ ← any
    else if t.is "(" then parenthesized table
    else if ← try1 "this" then
      if ← next "(" then arguments table
    else if ← nextAll ["super", "::"] then expect "super"
    else if ← try1 "super" then superSuffix table
    else if ← try1 "new" then creator table
    else if t.is "<" then
      plainTypeArguments table
      if ← try1 "this" then arguments table else genericCallSuffix table
    else if t.isWord then
      let _ ← identifier
      let _ ← repeated do
        if ← sees [Token.is ".", Token.isWord] then
          expect "."
          let _ ← identifier
          return some ()
        else return none
      nameSuffix table
    else if t.isBasicType then
      let _ ← any
      let _ ← dimensions
      expect "."
      expect "class"
    else if ← try1 "void" then
      expect "."
      expect "class"
    else refuse

/-- The body of a lambda after its parameters. -/
def lambdaBody (table : Table) : Reader Unit := do
  expect "->"
  if ← next leftBrace then block table else table.skip .expression

/-- Names of parameters without types, each with an optional comma after it. -/
def inferredParameters : Reader Unit := do
  expect "("
  let _ ← untilNext ")" do
    let _ ← identifier
    try1 ","
  expect ")"

/-- A lambda with its parameters in parentheses. -/
def lambda (table : Table) : Reader Unit := do
  if ← sees [Token.is "(", Token.isWord, Token.is ","] then inferredParameters
  else
    let _ ← parameters table
  lambdaBody table

/-- A cast with its operand. -/
def cast (table : Table) : Reader Unit := do
  expect "("
  let _ ← type table
  expect ")"
  table.skip .operand

/-- A primary expression with its selectors and the operators after it. -/
def selected (table : Table) : Reader Unit := do
  primary table
  let _ ← repeated do
    if ← nextIn ["[", "."] then return some (← selector table) else return none
  let _ ← repeated do
    if ← nextIn ["++", "--"] then
      let _ ← any
      return some ()
    else return none

/-- An operand of an infix operator. A parenthesis may start a lambda, a cast or an expression, and
they are tried in this order. -/
def operand (table : Table) : Reader Unit := do
  let _ ← repeated do
    if ← nextIn prefixOperators then
      let _ ← any
      return some ()
    else return none
  if ← next "(" then
    if (← trial (lambda table)).isSome then return
    if (← trial (cast table)).isSome then return
  selected table

/-- An infix operator. Two or three closing angle brackets in a row make one. -/
def infixOperator : Reader Unit := do
  let t ← any
  if t.is ">" then
    if ← try1 ">" then
      let _ ← try1 ">"

/-- Operands with infix operators between them. -/
def operation (table : Table) : Reader Unit := do
  operand table
  let _ ← repeated do
    if ← try1 "instanceof" then
      let _ ← type table
      return some ()
    else if ← nextIn infixOperators then
      infixOperator
      table.skip .operand
      return some ()
    else return none

/-- What follows `::`. -/
def methodReference (table : Table) : Reader Unit := do
  if ← next "<" then plainTypeArguments table
  if !(← try1 "new") then table.skip .expression

/-- An expression without an assignment. -/
def conditional (table : Table) : Reader Unit := do
  operation table
  if ← try1 "?" then
    table.skip .expression
    expect ":"
    table.skip .conditional
  else if ← next "->" then lambdaBody table
  else if ← try1 "::" then methodReference table

/-- An expression. -/
def expression (table : Table) : Reader Unit := do
  conditional table
  if ← nextIn assignmentOperators then
    let _ ← any
    table.skip .expression

end JavaAtlas.Java.Classic
