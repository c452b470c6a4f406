import TransportGen.Text.IdentifierChar

/-!
# Path templates

A template such as `/items/{id}` is a path with variables in braces. Three readers cut it at the
same places: `pathVariables` checks it and lists its variables, `routeShape` drops their names, and
`urlPieces` lists what a client appends to build a path.
-/

namespace TransportGen

/-- What is wrong with a path template. -/
inductive TemplateError where
  | noLeadingSlash (template : String)
  | nestedBrace (template : String)
  | badVariable (name template : String)
  | strayClosingBrace (template : String)
  | openBrace (template : String)
  deriving DecidableEq, Repr

/-- The wording of a template error. -/
def TemplateError.message : TemplateError → String
  | .noLeadingSlash t => "path `" ++ t ++ "` must start with `/`"
  | .nestedBrace t => "nested `\x7b` in path `" ++ t ++ "`"
  | .badVariable name t =>
    "invalid path variable `\x7b" ++ name ++ "\x7d` in `" ++ t ++ "`"
  | .strayClosingBrace t => "unbalanced `\x7d` in path `" ++ t ++ "`"
  | .openBrace t => "unterminated `\x7b` in path `" ++ t ++ "`"

/-- The variables of the rest of a template, outside (`none`) or inside braces, where the characters
since the opening brace are given last first. -/
def variablesFrom (template : String) :
    Option (List Char) → List Char → Except TemplateError (List String)
  | none, [] => .ok []
  | some _, [] => .error (.openBrace template)
  | none, c :: s =>
    if c = '\x7b' then variablesFrom template (some []) s
    else if c = '\x7d' then .error (.strayClosingBrace template)
    else variablesFrom template none s
  | some name, c :: s =>
    if c = '\x7b' then .error (.nestedBrace template)
    else if c = '\x7d' then
      if Text.isName name.reverse then
        (variablesFrom template none s).map (String.ofList name.reverse :: ·)
      else .error (.badVariable (String.ofList name.reverse) template)
    else variablesFrom template (some (c :: name)) s

/-- The variables of a template in order of appearance. The template begins with a slash, and its
braces are balanced and hold names. -/
def pathVariables (template : String) : Except TemplateError (List String) :=
  match template.toList with
  | '/' :: _ => variablesFrom template none template.toList
  | _ => .error (.noLeadingSlash template)

/-- The rest of a template with the name in each closed pair of braces erased, outside (`none`) or
after an opening brace, where the characters since that brace are given last first. -/
def shapeFrom : Option (List Char) → List Char → List Char
  | none, [] => []
  | some name, [] => '\x7b' :: name.reverse
  | none, c :: s => if c = '\x7b' then shapeFrom (some []) s else c :: shapeFrom none s
  | some name, c :: s =>
    if c = '\x7b' then '\x7b' :: name.reverse ++ shapeFrom (some []) s
    else if c = '\x7d' then '\x7b' :: '\x7d' :: shapeFrom none s
    else shapeFrom (some (c :: name)) s

/-- The template with every variable name erased. Templates of one shape match the same requests. -/
def routeShape (template : String) : String := String.ofList (shapeFrom none template.toList)

/-- What a client appends to a request path. -/
inductive UrlPiece where
  | literal (text : String)
  | variable (name : String)
  deriving DecidableEq, Repr

/-- A literal piece unless its text is empty; the characters are given last first. -/
def literalPiece (text : List Char) : List UrlPiece :=
  if text.isEmpty then [] else [.literal (String.ofList text.reverse)]

/-- The pieces of the rest of a template after the literal `text`, outside (`none`) or inside a
variable; characters already read are given last first. Where a brace is never closed, the literal
before it is taken twice; no checked template has such a brace. -/
def piecesFrom (text : List Char) : Option (List Char) → List Char → List UrlPiece
  | none, [] => literalPiece text
  | some name, [] => literalPiece (name ++ '\x7b' :: (text ++ text))
  | none, c :: s =>
    if c = '\x7b' then piecesFrom text (some []) s else piecesFrom (c :: text) none s
  | some name, c :: s =>
    if c = '\x7d' then
      literalPiece text ++ .variable (String.ofList name.reverse) :: piecesFrom [] none s
    else piecesFrom text (some (c :: name)) s

/-- The pieces of a template in order, without empty literals. -/
def urlPieces (template : String) : List UrlPiece := piecesFrom [] none template.toList

end TransportGen
