import JavaAtlas.Entry
import JavaAtlas.Listing.Header
import JavaAtlas.Modifier

/-! The member lines of a class listing. -/

namespace JavaAtlas.Listing

/-- A word is a modifier. -/
def isModifier (word : List Char) : Bool := Modifier.canonical.contains (String.ofList word)

/-- A name in a listing, where a dollar sign separates a member class from the class around it. -/
def className (cs : List Char) : String :=
  String.ofList ((Text.trim cs).map fun c => if c == '$' then '.' else c)

/-- The names in a list separated by commas. An item of blanks only is none. -/
def classNames (cs : List Char) : List String :=
  ((Text.splitAt ',' cs).filter fun n => !(Text.trim n).isEmpty).map className

/-- A clause with thrown exceptions starts here. -/
def startsThrows (cs : List Char) : Bool :=
  match (afterRun? Text.isBlank cs).bind (after? "throws") with
  | some (c :: _) => Text.isBlank c
  | _ => false

/-- A member line without the exceptions it throws. -/
def withoutThrows : List Char → List Char
  | [] => []
  | c :: cs => if startsThrows (c :: cs) then [] else c :: withoutThrows cs

/-- What stands in front of the last closing parenthesis. -/
def beforeLastParen (cs : List Char) : List Char :=
  ((cs.reverse.dropWhile (· != ')')).drop 1).reverse

/-- A member of a listing. -/
inductive Member where
  | field (f : FieldEntry)
  | method (m : MethodEntry)
deriving Repr, BEq

def texts (words : List (List Char)) : List String := words.map String.ofList

/-- A method or constructor. A method with the full name of the class is a constructor. The last
word that is no modifier, in front of the name, is the return type. -/
def callable? (owner : String) (line : List Char) : Option Member :=
  let words := Text.words (line.takeWhile (· != '('))
  let params := classNames (beforeLastParen ((line.dropWhile (· != '(')).drop 1))
  match words.reverse with
  | [] => none
  | last :: before =>
    let name := className last
    let (modifiers, others) := before.reverse.partition isModifier
    if name == owner then
      some (.method { name := some (Name.last owner), params, modifiers := texts modifiers
                      isConstructor := true })
    else
      let returns := (others.getLast?.map className).getD "void"
      some (.method { name := some name, returns, params, modifiers := texts modifiers })

/-- A field: its name is the last word, its type the word in front. -/
def fieldLine? (line : List Char) : Option Member :=
  let words := Text.words line
  match words.reverse with
  | name :: type :: before =>
    if texts (words.take 2) == ["static", "\x7b\x7d"] then none
    else
      some (.field { name := some (String.ofList name), type := some (className type)
                     modifiers := texts (before.reverse.filter isModifier) })
  | _ => none

/-- The member on a line without its semicolon, in the listing of the class `owner`. -/
def member? (owner : String) (line : List Char) : Option Member :=
  let line := withoutThrows line
  if line.contains '(' then callable? owner line else fieldLine? line

end JavaAtlas.Listing
