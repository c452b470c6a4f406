import TransportGen.Text.Blank
import TransportGen.Text.Letter

/-!
# Spellings of a name

The same name is written `ItemService` for a type, `item_service` for a module and `ITEM_SERVICE`
for a constant.
-/

namespace TransportGen

/-- Whether a word begins at an upper-case letter, given its neighbours: after a lower-case letter
or a digit, or at the last capital of an acronym that a lower-case letter follows. -/
def isWordStart (previous next : Option Char) : Bool :=
  match previous with
  | none => false
  | some p =>
    if Text.isLower p || p.isDigit then true
    else if Text.isUpper p then next.any Text.isLower
    else false

/-- The rest of a name in lower case, its words separated by underscores. -/
def snakeFrom (previous : Option Char) : List Char → List Char
  | [] => []
  | c :: s =>
    if Text.isUpper c then
      (if isWordStart previous s.head? then ['_'] else []) ++ Text.toLower c ++ snakeFrom (some c) s
    else c :: snakeFrom (some c) s

/-- The name of a module: `ItemService` is `item_service`. -/
def snakeCase (name : String) : String := String.ofList (snakeFrom none name.toList)

/-- A word with its first character in upper case. -/
def capitalize : List Char → List Char
  | [] => []
  | c :: s => Text.toUpper c ++ s

/-- The name of a type: `get_item` is `GetItem`. -/
def pascalCase (name : String) : String :=
  String.ofList ((Text.fields (· == '_') name.toList).flatMap capitalize)

/-- The name of a constant: `get_item` is `GET_ITEM`. -/
def screamingCase (name : String) : String :=
  String.ofList (Text.upperAscii (snakeCase name).toList)

end TransportGen
