import JavaAtlas.Java.Modern.Phrase

/-! The parameters of methods and lambdas. -/

namespace JavaAtlas.Java.Modern

open Reader

/-- The parameter that stands for the object itself. It is not reported. -/
def receiver (table : Table) (words : List String) : Reader Unit := do
  let annotated ← next "@"
  openingType table (words ++ modifierWords) modifierWords
  let names := if annotated then [] else "_" :: softWords
  if ← sees [Token.isWordExcept ("this" :: names), Token.is "."] then
    let _ ← identifier
    expect "."
    let _ ← repeated do
      if ← sees [Token.isWordExcept ["this"], Token.is "."] then
        let _ ← identifier
        return some (← expect ".")
      else return none
  expect "this"

/-- The type that a variable-arity parameter is reported with. A comment between its modifiers and
its type is taken for it. -/
def variadicType (comments : List TypeSpec) (spec : TypeSpec) : TypeSpec :=
  match comments with
  | c :: _ => ⟨c.name, 1⟩
  | [] => ⟨spec.name, spec.dims + 1⟩

/-- A parameter. Modifiers tell that it is one, without them some words are keywords. Dimensions
after the name of a variable-arity parameter do not count. -/
def parameter (table : Table) (words : Keywords) : Reader ParamDecl := do
  let modified ← anyModifiers table
  let comments ← if modified then leadingComments else pure []
  let spec ← typeAmong table (if modified then {} else words)
  if ← try1 "..." then
    annotations table
    let (name, _) ← declarator table
    return { name, type := variadicType comments spec, variadic := true }
  else
    let (name, extra) ← variableName table
    return { name, type := ⟨spec.name, spec.dims + extra⟩ }

/-- Parameters up to the closing parenthesis. -/
def parameterList (table : Table) (words : Keywords) : Reader (List ParamDecl) := do
  if ← try1 ")" then return []
  let first ← parameter table words
  let rest ← repeated do
    if ← try1 "," then return some (← parameter table {}) else return none
  expect ")"
  return first :: rest

/-- Parameters in parentheses, where something else could stand as well. The object itself may come
first; after annotations it does only where no other parameter can. -/
def parametersAmong (table : Table) (words : Keywords) : Reader (List ParamDecl) := do
  expect "("
  let others : Reader (List ParamDecl) := do
    if ← try1 ")" then return []
    expect ","
    parameterList table {}
  if ← next "@" then
    orElse (parameterList table words) do
      receiver table words.first
      others
  else if (← attempt (receiver table words.first)).isSome then others
  else parameterList table words

def parameters (table : Table) : Reader (List ParamDecl) := parametersAmong table {}

end JavaAtlas.Java.Modern
