import JavaAtlas.Java.Modern.Expression

/-! Switches of current Java, and the operands of expressions, which switches are among. -/

namespace JavaAtlas.Java.Modern

open Reader

/-- A type and a name for the value. -/
def typePattern (table : Table) : Reader Unit := do
  let _ ← typeAmong table labelKeywords
  let _ ← identifier

/-- A record pattern starts here, with its first component left out. -/
def leavesOut : List Token → Bool
  | t :: u :: ts => t.isWordExcept valueWords && u.is "(" && (ts.head?.any (Token.is "_") || leavesOut ts)
  | _ => false

/-- What a label says. The mark after it ends it. -/
def switchLabel (table : Table) (mark : Reader Bool) : Reader Unit := do
  let guard : Reader Unit := do
    if ← try1 "when" then table.value
  let matched : Reader Unit := do
    orElse (pattern table true) (typePattern table)
    guard
    if !(← mark) then refuse
  if ← try1 "case" then
    if (← attempt matched).isNone then
      if leavesOut (← ahead) then refuse
      let _ ← separated "," table.value
      guard
  else expect "default"
  if !(← mark) then refuse

/-- Where the arrows stand in a rule of a switch, those in brackets apart. -/
def arrows (depth index : Nat) : List Token → List Nat
  | [] => []
  | t :: ts =>
    if ["(", "[", leftBrace].contains t.text || Token.opensExpression t then
      arrows (depth + 1) (index + 1) ts
    else if [")", "]", rightBrace].contains t.text then
      let ended := t.is rightBrace && ts.head?.any fun u => u.is "case" || u.is "default"
      if depth == 0 || (depth == 1 && ended) then [] else arrows (depth - 1) (index + 1) ts
    else if depth == 0 && t.is ";" then []
    else if depth == 0 && t.is "->" then index :: arrows depth (index + 1) ts
    else arrows depth (index + 1) ts

/-- A label that ends before the arrow at an index, and what is done there. -/
def ruleAt (table : Table) (index : Nat) : Reader Unit := do
  let tokens ← ahead
  goOnFrom (tokens.take index)
  switchLabel table (return (← ahead).isEmpty)
  goOnFrom (tokens.drop (index + 1))
  if ← next leftBrace then block table
  else
    let _ ← try1 "throw"
    table.value
    expect ";"
  if !(← nextIn ["case", "default", rightBrace]) then refuse

/-- A label with an arrow, and what is done there. The arrow is the first that serves, since a label
may have lambdas in it. -/
def switchRule (table : Table) : Reader Unit := do
  (arrows 0 0 (← ahead)).foldr (fun index later => orElse (ruleAt table index) later) refuse

/-- A label with a colon. -/
def colonLabel (table : Table) : Reader Unit := do
  switchLabel table (next ":")
  expect ":"

/-- Labels with colons, and the statements after them. -/
def switchGroup (table : Table) : Reader Unit := do
  colonLabel table
  let _ ← repeated do
    if ← nextIn ["case", "default"] then return some (← colonLabel table) else return none
  let _ ← repeated do
    if ← nextIn ["case", "default", rightBrace] then return none
    return some (← table.skip .statement)

/-- The labels of a switch. Either all of them have arrows, or all have colons. -/
def switchBody (table : Table) : Reader Unit := do
  let labels (label : Reader Unit) : Reader Unit := do
    let _ ← untilNext rightBrace label
    expect rightBrace
  orElse (labels (switchRule table)) (labels (switchGroup table))

def switch (table : Table) : Reader Unit := do
  expect "switch"
  parenthesized table
  expect leftBrace
  switchBody table

/-- An operand of an expression. A parenthesis may start a lambda, a cast or an expression, and
they are tried in this order. -/
def operand (table : Table) : Reader Unit := do
  if ← nextIn prefixOperators then
    let _ ← any
    table.skip .operand
  else if ← next "switch" then switch table
  else
    if ← lambda? table valueWords then return
    if ← next "(" then
      if (← attempt (cast table)).isSome then return
    assigned table

end JavaAtlas.Java.Modern
