import TransportGen.Http
import TransportGen.Server
import TransportGen.Table

/-!
# What directives add up to

The directives of a doc comment are collected in an accumulator: `DocumentDirectives` for a trait
and `MethodDirectives` for a method. A later directive wins over an earlier one with the same
keyword, except that queries, headers and servers accumulate.
-/

namespace TransportGen

/-- Directives about the API document. -/
structure DocumentDirectives where
  title : Option String := none
  version : Option String := none
  summary : Option String := none
  description : Option String := none
  servers : List Server := []
  deriving DecidableEq, Repr, Inhabited

/-- Lays `later` on `base`: what it sets wins, and its servers are added by their URLs. -/
def DocumentDirectives.merge (base later : DocumentDirectives) : DocumentDirectives where
  title := later.title <|> base.title
  version := later.version <|> base.version
  summary := later.summary <|> base.summary
  description := later.description <|> base.description
  servers := later.servers.foldl pushServer base.servers

/-- Whether nothing is set. -/
def DocumentDirectives.isEmpty (d : DocumentDirectives) : Bool := d == {}

/-- A parameter that travels in the query, and its key there. -/
structure QueryDirective where
  param : String
  key : String
  deriving DecidableEq, Repr

/-- A parameter that travels in a header, and the header's name. -/
structure HeaderDirective where
  name : String
  param : String
  deriving DecidableEq, Repr

/-- The value of a response header. -/
inductive HeaderValue where
  /-- A fixed text. -/
  | literal (text : String)
  /-- The text of a field of the success value. -/
  | field (name : String)
  deriving DecidableEq, Repr

/-- A header that is set on success. -/
structure ResponseHeader where
  name : String
  value : HeaderValue
  deriving DecidableEq, Repr

/-- How the success value travels in the response body. -/
inductive ResponseBody where
  /-- The whole value as JSON. -/
  | json
  /-- One field of the value as JSON. -/
  | field (name : String)
  /-- The value itself, a text or bytes. -/
  | raw
  /-- No body. -/
  | empty
  deriving DecidableEq, Repr

/-- All directives of one method. -/
structure MethodDirectives where
  verb : Option Verb := none
  uriPath : Option String := none
  apiPath : Option String := none
  queries : List QueryDirective := []
  headers : List HeaderDirective := []
  contentType : Option String := none
  /-- JSON names of parameters. -/
  jsonTags : Table String String := ∅
  /-- Statuses of error variants, by the name as written. -/
  errors : Table String Nat := ∅
  responseStatus : Option Nat := none
  responseHeaders : List ResponseHeader := []
  responseContentType : Option String := none
  responseContentEncoding : Option String := none
  /-- JSON names of fields of the success value. -/
  responseJsonTags : Table String String := ∅
  responseBody : Option ResponseBody := none
  summary : Option String := none
  description : Option String := none
  /-- Title, version and servers given on the method. -/
  document : DocumentDirectives := {}
  deriving DecidableEq, Inhabited

end TransportGen
