/-! Errors of Java text. -/

namespace JavaAtlas

/-- Why and where a text is no Java, and where the text comes from. -/
structure ParseError where
  message : String
  line : Option Int := none
  column : Option Int := none
  origin : Option String := none
deriving Repr, BEq, DecidableEq

namespace ParseError

/-- The place of the error: the origin, then line and column as far as they are known. A column
without a line is not shown. -/
def place (e : ParseError) : String :=
  let origin := e.origin.getD ""
  let source := if origin.isEmpty then "<source>" else origin
  match e.line, e.column with
  | none, _ => source
  | some line, none => source ++ ":" ++ toString line
  | some line, some column => source ++ ":" ++ toString line ++ ":" ++ toString column

/-- The error in one line. -/
def text (e : ParseError) : String := e.place ++ ": " ++ e.message

end ParseError

end JavaAtlas
