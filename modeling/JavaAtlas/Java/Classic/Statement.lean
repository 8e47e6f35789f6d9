import JavaAtlas.Java.Classic.Expression

/-! Statements of Java 8. Nothing in them is reported. -/

namespace JavaAtlas.Java.Classic

open Reader

/-- How a statement of a block starts, past its modifiers and annotations. -/
inductive Lead where
  /-- A modifier that only a type declaration may have. -/
  | typeModifier
  | other (annotated : Bool) (next : Option Token)

/-- The tokens after the parenthesis that closes the one open. -/
def afterParentheses : Nat → List Token → Option (List Token)
  | _, [] => none
  | depth, t :: ts =>
    if t.is "(" then afterParentheses (depth + 1) ts
    else if t.is ")" then if depth ≤ 1 then some ts else afterParentheses (depth - 1) ts
    else afterParentheses depth ts

theorem afterParentheses_length {depth : Nat} {ts rest : List Token}
    (h : afterParentheses depth ts = some rest) : rest.length < ts.length := by
  fun_induction afterParentheses depth ts with
  | case1 => simp at h
  | case2 _ _ _ _ ih => have := ih h; simp only [List.length_cons]; omega
  | case3 _ t ts _ _ _ =>
    simp only [Option.some.injEq] at h
    subst h
    simp
  | case4 _ _ _ _ _ _ ih => have := ih h; simp only [List.length_cons]; omega
  | case5 _ _ _ _ _ ih => have := ih h; simp only [List.length_cons]; omega

/-- The tokens after the dots and names of an annotation's name. -/
def afterName : List Token → List Token
  | t :: u :: ts => if t.is "." then afterName ts else t :: u :: ts
  | [t] => if t.is "." then [] else [t]
  | [] => []

theorem afterName_length (ts : List Token) : (afterName ts).length ≤ ts.length := by
  fun_induction afterName ts <;> simp_all only [List.length_cons, List.length_nil] <;> omega

/-- Looks past modifiers and annotations. An annotation without arguments hides the token after it;
only a declaration of a variable can follow it. -/
def leadFrom (annotated : Bool) : List Token → Option Lead
  | [] => some (.other annotated none)
  | t :: ts =>
    if isModifier t then
      if t.is "final" then leadFrom annotated ts else some .typeModifier
    else if annotationAhead (t :: ts) then
      match _h : afterName (ts.drop 1) with
      | [] => some (.other true none)
      | u :: rest =>
        if u.is "(" then
          match _hp : afterParentheses 1 rest with
          | none => none
          | some after => leadFrom true after
        else leadFrom true rest
    else some (.other annotated (some t))
termination_by ts => ts.length
decreasing_by
  · simp
  · have h1 := afterName_length (ts.drop 1)
    have h2 := afterParentheses_length _hp
    rw [_h] at h1
    simp only [List.length_cons, List.length_drop] at *
    omega
  · have h1 := afterName_length (ts.drop 1)
    rw [_h] at h1
    simp only [List.length_cons, List.length_drop] at *
    omega

/-- A declaration of local variables. -/
def localVariables (table : Table) : Reader Unit := do
  variableModifiers table
  let _ ← type table
  let _ ← separated "," (declarator table)
  expect ";"

/-- A statement of a block: a type declaration, a declaration of variables or a plain statement. A
statement that starts with a name is tried as a declaration first. -/
def blockStatement (table : Table) (typeDeclaration : Reader Unit) : Reader Unit := do
  if (← sees [Token.isWord, Token.is ":"]) || (← next "synchronized") then
    table.skip .statement
  else
    match leadFrom false (← ahead) with
    | none => throw .exhausted
    | some .typeModifier => typeDeclaration
    | some (.other annotated token) =>
      if token.any fun t => ["class", "enum", "interface", "@"].contains t.text then typeDeclaration
      else if annotated || token.any Token.isBasicType then localVariables table
      else if !token.any Token.isWord then table.skip .statement
      else if (← trial (localVariables table)).isSome then return
      else table.skip .statement

/-- A clause that catches exceptions. -/
def catchClause (table : Table) : Reader Unit := do
  expect "catch"
  expect "("
  variableModifiers table
  let _ ← separated "|" qualifiedName
  let _ ← identifier
  expect ")"
  block table

/-- All clauses that catch exceptions; tells whether there is one. -/
def catches (table : Table) : Reader Bool := do
  let clauses ← repeated do
    if ← next "catch" then return some (← catchClause table) else return none
  return !clauses.isEmpty

def finallyClause (table : Table) : Reader Bool := do
  if ← try1 "finally" then
    block table
    return true
  else return false

/-- A resource that is closed after use. -/
def resource (table : Table) : Reader Unit := do
  variableModifiers table
  let _ ← referenceType table
  let _ ← dimensions
  let _ ← identifier
  let _ ← dimensions
  expect "="
  table.skip .expression

/-- Resources in parentheses. A semicolon may follow the last one. -/
def resources (table : Table) : Reader Unit := do
  expect "("
  let _ ← repeated do
    resource table
    if !(← next ")") then expect ";"
    if ← next ")" then return none else return some ()
  expect ")"

def tryStatement (table : Table) : Reader Unit := do
  if ← next leftBrace then
    block table
    let caught ← catches table
    let finished ← finallyClause table
    if !caught && !finished then refuse
  else
    resources table
    block table
    let _ ← catches table
    let _ ← finallyClause table

/-- A label of a switch. -/
def switchLabel (table : Table) : Reader Unit := do
  let t ← any
  if t.is "case" then
    if ← sees [Token.isWord, Token.is ":"] then
      let _ ← identifier
    else table.skip .expression
  else if !t.is "default" then refuse
  expect ":"

/-- Labels and the statements after them. -/
def switchGroup (table : Table) : Reader Unit := do
  switchLabel table
  let _ ← repeated do
    if ← nextIn ["case", "default"] then return some (← switchLabel table) else return none
  let _ ← repeated do
    if ← nextIn ["case", "default", rightBrace] then return none
    return some (← table.skip .blockStatement)

def switchGroups (table : Table) : Reader Unit := do
  let _ ← repeated do
    if ← nextIn ["case", "default"] then return some (← switchGroup table) else return none

/-- Expressions with commas between them. -/
def expressions (table : Table) : Reader Unit := do
  let _ ← separated "," (table.skip .expression)

/-- The condition and the update of a loop, after the first semicolon. -/
def loopRest (table : Table) : Reader Unit := do
  if !(← next ";") then table.skip .expression
  expect ";"
  if !(← next ")") then expressions table

/-- The control of a loop that declares a variable. -/
def variableControl (table : Table) : Reader Unit := do
  variableModifiers table
  let _ ← type table
  let _ ← identifier
  let _ ← dimensions
  if ← try1 ":" then table.skip .expression
  else
    if !(← next ";") then
      if ← try1 "=" then table.skip .initializer
      let _ ← repeated do
        if ← try1 "," then return some (← declarator table) else return none
    expect ";"
    loopRest table

/-- The control of a loop in its parentheses. -/
def loopControl (table : Table) : Reader Unit := do
  if (← trial (variableControl table)).isSome then return
  if !(← next ";") then expressions table
  expect ";"
  loopRest table

/-- The label that a jump may name. -/
def jumpLabel : Reader Unit := do
  if ← sees [Token.isWord] then
    let _ ← identifier
  expect ";"

/-- A statement. -/
def statement (table : Table) : Reader Unit := do
  if ← next leftBrace then block table
  else if ← try1 ";" then return
  else if ← sees [Token.isWord, Token.is ":"] then
    let _ ← identifier
    expect ":"
    table.skip .statement
  else if ← try1 "if" then
    parenthesized table
    table.skip .statement
    if ← try1 "else" then table.skip .statement
  else if ← try1 "assert" then
    table.skip .expression
    if ← try1 ":" then table.skip .expression
    expect ";"
  else if ← try1 "switch" then
    parenthesized table
    expect leftBrace
    switchGroups table
    expect rightBrace
  else if ← try1 "while" then
    parenthesized table
    table.skip .statement
  else if ← try1 "do" then
    table.skip .statement
    expect "while"
    parenthesized table
    expect ";"
  else if ← try1 "for" then
    expect "("
    loopControl table
    expect ")"
    table.skip .statement
  else if ← try1 "break" then jumpLabel
  else if ← try1 "continue" then jumpLabel
  else if ← try1 "return" then
    if !(← next ";") then table.skip .expression
    expect ";"
  else if ← try1 "throw" then
    table.skip .expression
    expect ";"
  else if ← try1 "synchronized" then
    parenthesized table
    block table
  else if ← try1 "try" then tryStatement table
  else
    table.skip .expression
    expect ";"

end JavaAtlas.Java.Classic
