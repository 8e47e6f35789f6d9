import JavaAtlas.Java.Modern.Switch

/-! Statements of current Java that declare no types. Nothing in them is reported. -/

namespace JavaAtlas.Java.Modern

open Reader

/-- The type of a variable and the variable's name. -/
def typedName (table : Table) (words : Keywords) : Reader Unit := do
  let _ ← typeAmong table words
  let _ ← variableName table

/-- The type of a variable and the variable's name, with modifiers or without. Modifiers tell that it
is a declaration. -/
def modifiedName (table : Table) (words : Keywords) : Reader Unit := do
  if ← nextAll ["sealed", "instanceof"] then refuse
  let modified ← anyModifiers table
  typedName table (if modified then {} else words)

/-- The value of a declared variable, and further variables. -/
def variablesRest (table : Table) : Reader Unit := do
  if ← try1 "=" then table.skip .initializer
  let _ ← repeated do
    if ← try1 "," then return some (← declarator table) else return none
  expect ";"

/-- A declaration of variables after its modifiers. -/
def localVariables (table : Table) (words : Keywords) : Reader Unit := do
  typedName table words
  variablesRest table

/-- An expression as a statement. -/
def expressionStatement (table : Table) : Reader Unit := do
  table.value
  expect ";"

/-- A clause that catches exceptions. -/
def catchClause (table : Table) : Reader Unit := do
  expect "catch"
  expect "("
  let _ ← anyModifiers table
  let _ ← separated "|" (type table)
  let _ ← variableName table
  expect ")"
  block table

/-- All clauses that catch exceptions; tells whether there is one. -/
def catches (table : Table) : Reader Bool := do
  let clauses ← repeated (whenNext "catch" (catchClause table))
  return !clauses.isEmpty

def finallyClause (table : Table) : Reader Bool := do
  if ← try1 "finally" then
    block table
    return true
  else return false

/-- A resource that is closed after use: a new variable, or a variable or field that exists. -/
def resource (table : Table) : Reader Unit := do
  let declared : Reader Unit := do
    modifiedName table resourceKeywords
    expect "="
    table.value
  if (← attempt declared).isNone then
    if ← nextHardModifier then refuse
    let form ← selectedNoSwitch table
    if form != .name && form != .field then refuse

/-- Resources in parentheses. A semicolon may follow the last one. -/
def resources (table : Table) : Reader Unit := do
  expect "("
  resource table
  let _ ← repeated do
    if (← next ";") && !(← nextAll [";", ")"]) then
      expect ";"
      return some (← resource table)
    else return none
  let _ ← try1 ";"
  expect ")"

def tryStatement (table : Table) : Reader Unit := do
  if ← next "(" then
    resources table
    block table
    let _ ← catches table
    let _ ← finallyClause table
  else
    block table
    let caught ← catches table
    let finished ← finallyClause table
    if !caught && !finished then refuse

/-- Expressions with commas between them, up to a mark. -/
def expressionsUntil (table : Table) (stop : String) : Reader Unit := do
  if !(← next stop) then
    let _ ← separated "," table.value
  expect stop

/-- The control of a loop over the elements of a collection. -/
def elementControl (table : Table) : Reader Unit := do
  modifiedName table loopKeywords
  expect ":"
  table.value
  expect ")"

/-- The control of a loop with a condition. -/
def conditionControl (table : Table) : Reader Unit := do
  let declared : Reader Unit := do
    modifiedName table loopKeywords
    variablesRest table
  if (← attempt declared).isNone then
    if ← nextHardModifier then refuse
    expressionsUntil table ";"
  if !(← next ";") then table.value
  expect ";"
  expressionsUntil table ")"

/-- The label that a jump may name. -/
def jumpLabel : Reader Unit := do
  if ← sees [Token.isWord] then
    let _ ← identifier
  expect ";"

/-- A switch as a statement, or as the start of an expression. -/
def switchStatement (table : Table) : Reader Unit := do
  switch table
  let rest : Reader Unit := do
    if !(← operation? table) then refuse
    operations table
    expect ";"
  let _ ← attempt rest

/-- A statement that a keyword or a mark starts, if the next token is one. -/
def keywordStatement? (table : Table) : Reader Bool := do
  if ← next leftBrace then block table
  else if ← try1 ";" then pure ()
  else if ← sees [Token.isWordExcept statementWords, Token.is ":"] then
    let _ ← identifier
    expect ":"
    table.skip .statement
  else if ← try1 "if" then
    parenthesized table
    table.skip .statement
    if ← try1 "else" then table.skip .statement
  else if ← try1 "while" then
    parenthesized table
    table.skip .statement
  else if ← try1 "for" then
    expect "("
    if (← attempt (elementControl table)).isNone then conditionControl table
    table.skip .statement
  else if ← try1 "do" then
    table.skip .statement
    expect "while"
    parenthesized table
    expect ";"
  else if ← try1 "assert" then
    table.value
    if ← try1 ":" then table.value
    expect ";"
  else if ← try1 "break" then jumpLabel
  else if ← try1 "continue" then jumpLabel
  else if ← try1 "return" then
    if !(← next ";") then table.value
    expect ";"
  else if ← try1 "throw" then expressionStatement table
  else if ← next "switch" then switchStatement table
  else if ← nextAll ["synchronized", "("] then
    expect "synchronized"
    parenthesized table
    block table
  else if ← try1 "try" then tryStatement table
  else return false
  return true

/-- The result of a switch expression, or an expression with `yield` as a name. -/
def yieldStatement (table : Table) : Reader Unit := do
  let result : Reader Unit := do
    expect "yield"
    if ← next "instanceof" then refuse
    expressionStatement table
  orElse result (expressionStatement table)

/-- A declaration of variables or an expression, as a statement. -/
def plainStatement (table : Table) : Reader Unit := do
  if ← next "yield" then yieldStatement table
  else orElse (localVariables table statementKeywords) (expressionStatement table)

end JavaAtlas.Java.Modern
