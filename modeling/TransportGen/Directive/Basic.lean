import TransportGen.Text.Blank
import TransportGen.Text.Pattern
import TransportGen.Text.Letter

/-!
# Directives

A directive is a line of a doc comment that begins with the marker, as in `@gtg method GET`: after
the marker stand a keyword and its argument. `Directive.parse` reads one line. A keyword may carry
the name of a family before it (`swagger-title`), which is dropped, and is read without regard to
the case of ASCII letters.

A line is marked also when nothing follows the marker; `markedWords` gives its words.
-/

namespace TransportGen

/-- The word that marks a doc line as a directive unless another one is chosen. -/
def defaultMarker : String := "@gtg"

/-- What part of a contract a directive describes. -/
inductive Scope where
  | request
  | response
  | document
  deriving DecidableEq, Repr

/-- The name of a scope. -/
def Scope.name : Scope → String
  | .request => "request"
  | .response => "response"
  | .document => "document"

/-- Keywords of directives about the API document. -/
def documentKeywords : List String := ["title", "version", "summary", "description", "servers"]

/-- The scope that a keyword belongs to. -/
def Scope.ofKeyword (keyword : String) : Scope :=
  if documentKeywords.contains keyword then .document
  else if (Text.stripStart? "response-".toList keyword.toList).isSome then .response
  else .request

/-- A keyword and its argument, taken from a marked line. -/
structure Directive where
  /-- The keyword in lower case, without a family name. -/
  keyword : String
  /-- The rest of the line, trimmed. -/
  argument : String
  /-- What the directive is about. -/
  scope : Scope
  /-- The line as written. -/
  line : String
  deriving DecidableEq, Repr

/-- Families whose name may stand before a keyword. -/
def keywordFamilies : List String := ["http-server-", "swagger-"]

/-- The keyword without the name of its family. A family name with nothing after it stays. -/
def stripFamily (keyword : List Char) : List Char :=
  match keywordFamilies.findSome? fun family => Text.stripStart? family.toList keyword with
  | some rest => if rest.isEmpty then keyword else rest
  | none => keyword

/-- What follows the marker at the start of a line. The marker ends with the line or at a blank. -/
def afterMarker? (marker line : List Char) : Option (List Char) :=
  match Text.stripStart? marker (Text.trimStart line) with
  | some [] => some []
  | some (c :: rest) => if Text.isBlank c then some (c :: rest) else none
  | none => none

/-- A non-empty trimmed text cut into its first word and the rest. -/
def splitKeyword (text : List Char) : List Char × List Char :=
  match Text.splitFirst Text.isBlank text with
  | some (keyword, argument) => (keyword, Text.trim argument)
  | none => (text, [])

/-- Reads a doc line; there is no directive where the line is not marked or has no word after the
marker. -/
def Directive.parse (marker line : String) : Option Directive :=
  match (afterMarker? marker.toList line.toList).map Text.trim with
  | none | some [] => none
  | some text =>
    let (word, argument) := splitKeyword text
    let keyword := String.ofList (Text.lowerAscii (stripFamily word))
    some {
      keyword
      argument := String.ofList argument
      scope := Scope.ofKeyword keyword
      line }

/-- The words after the marker, if the line is marked. -/
def markedWords (marker line : String) : Option (List String) :=
  (afterMarker? marker.toList line.toList).map fun rest => (Text.words rest).map String.ofList

/-- Whether a text is nothing but blanks. -/
def isBlankLine (line : String) : Bool := line.toList.all Text.isBlank

/-- Whether the first line of a doc comment that is not blank is marked. -/
def isMarked (marker : String) (lines : List String) : Bool :=
  match lines.find? (! isBlankLine ·) with
  | some line => (markedWords marker line).isSome
  | none => false

end TransportGen
