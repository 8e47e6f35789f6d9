import JavaAtlas.Java.Modern.Phrase

/-! Packages, imports and modules of current Java. -/

namespace JavaAtlas.Java.Modern

open Reader

/-- The text of the dotted name that comes next. -/
def nameText : Reader String := do
  let (_, taken) ← withTokens qualifiedName
  return sourceText taken

/-- An import. -/
def importDeclaration : Reader ImportDecl := do
  expect "import"
  let isStatic ← try1 "static"
  let name ← nameText
  let onDemand ← tryAll [".", "*"]
  expect ";"
  return { name, isStatic, onDemand }

/-- A package declaration, which may be annotated. -/
def packageDeclaration (table : Table) : Reader String := do
  annotations table
  expect "package"
  let name ← nameText
  expect ";"
  return name

/-- Names with commas between them after a keyword. -/
def namesAfter (word : String) : Reader Unit := do
  expect word
  let _ ← separated "," qualifiedName

/-- A line of a module. -/
def moduleDirective : Reader Unit := do
  if ← try1 "requires" then
    let _ ← repeated do
      if ← nextIn ["transitive", "static"] then return some (← any) else return none
    qualifiedName
  else if ← nextIn ["exports", "opens"] then
    let _ ← any
    qualifiedName
    if ← next "to" then namesAfter "to"
  else if ← try1 "uses" then qualifiedName
  else
    expect "provides"
    qualifiedName
    namesAfter "with"
  expect ";"

/-- A module declaration, which may be annotated. It is not reported. -/
def moduleDeclaration (table : Table) : Reader Unit := do
  annotations table
  let _ ← try1 "open"
  expect "module"
  qualifiedName
  expect leftBrace
  let _ ← untilNext rightBrace moduleDirective
  expect rightBrace

/-- A module declaration comes next, and the words at its start are no names. -/
def nextModule : Reader Bool := do
  return (← nextAll ["open", "module"]) ||
    (← sees [Token.is "module", Token.isWordExcept ["instanceof"]])

end JavaAtlas.Java.Modern
