import TransportGen.Document.Format
import TransportGen.Json.Value

/-!
# The API document

One document in the OpenAPI format describes the operations of all services: by path template and,
for each path, by request method. Parts that are empty are left out of its text.
-/

namespace TransportGen

/-- The part of the document that says what it is about. -/
structure ApiInfo where
  title : String
  version : String
  summary : Option String
  description : String

/-- A parameter outside the body. -/
structure ApiParameter where
  name : String
  /-- The place where it travels. -/
  location : String
  required : Bool
  schema : JsonValue

/-- Schemas by content type. -/
abbrev ApiContent := Table String JsonValue

/-- The body of a request. -/
structure ApiRequestBody where
  required : Bool
  content : ApiContent

/-- A response. -/
structure ApiResponse where
  description : String
  /-- The schemas of its headers. -/
  headers : Table String JsonValue
  content : ApiContent

/-- An operation. -/
structure ApiOperation where
  operationId : String
  tags : List String
  summary : Option String
  description : Option String
  parameters : List ApiParameter
  requestBody : Option ApiRequestBody
  /-- Responses by status. -/
  responses : Table String ApiResponse

/-- Operations by path template and request method. -/
abbrev ApiPaths := Table String (Table String ApiOperation)

/-- The document. -/
structure ApiDocument where
  /-- The version of the format. -/
  openapi : String
  info : ApiInfo
  servers : List Server
  paths : ApiPaths

/-! ## The document as a value -/

/-- A field that is left out when it is not set. -/
def optionalField (name : String) (value : Option String) : List (String × JsonValue) :=
  value.toList.map fun text => (name, .string text)

/-- A field that is left out when it is empty. -/
def textField (name text : String) : List (String × JsonValue) :=
  if text.isEmpty then [] else [(name, .string text)]

/-- A field that is left out when it has no items. -/
def arrayField (name : String) (items : List JsonValue) : List (String × JsonValue) :=
  if items.isEmpty then [] else [(name, .array items)]

/-- A field that is left out when the table has no entries. -/
def tableField {α : Type} (name : String) (value : α → JsonValue) (t : Table String α) :
    List (String × JsonValue) :=
  if t.isEmpty then [] else [(name, .ofTable value t)]

/-- An object that holds nothing but a schema. -/
def schemaHolder (schema : JsonValue) : JsonValue := .object [("schema", schema)]

/-- The info as a value. -/
def ApiInfo.toJson (i : ApiInfo) : JsonValue :=
  .object <| [("title", .string i.title), ("version", .string i.version)] ++
    optionalField "summary" i.summary ++ textField "description" i.description

/-- A server as a value. -/
def Server.toJson (s : Server) : JsonValue :=
  .object <| ("url", .string s.url) :: textField "description" s.description

/-- A parameter as a value. -/
def ApiParameter.toJson (p : ApiParameter) : JsonValue :=
  .object [("name", .string p.name), ("in", .string p.location), ("required", .bool p.required),
    ("schema", p.schema)]

/-- A request body as a value. -/
def ApiRequestBody.toJson (b : ApiRequestBody) : JsonValue :=
  .object [("required", .bool b.required), ("content", .ofTable schemaHolder b.content)]

/-- A response as a value. -/
def ApiResponse.toJson (r : ApiResponse) : JsonValue :=
  .object <| ("description", .string r.description) :: tableField "headers" schemaHolder r.headers ++
    tableField "content" schemaHolder r.content

/-- An operation as a value. -/
def ApiOperation.toJson (o : ApiOperation) : JsonValue :=
  .object <| [("operationId", .string o.operationId)] ++
    arrayField "tags" (o.tags.map JsonValue.string) ++ optionalField "summary" o.summary ++
    optionalField "description" o.description ++
    arrayField "parameters" (o.parameters.map ApiParameter.toJson) ++
    o.requestBody.toList.map (fun b => ("requestBody", b.toJson)) ++
    [("responses", .ofTable ApiResponse.toJson o.responses)]

namespace ApiDocument

/-- The document as a value. -/
def toJson (d : ApiDocument) : JsonValue :=
  .object <| [("openapi", .string d.openapi), ("info", d.info.toJson)] ++
    arrayField "servers" (d.servers.map Server.toJson) ++
    [("paths", .ofTable (JsonValue.ofTable ApiOperation.toJson) d.paths)]

/-- The number of operations. -/
def operationCount (d : ApiDocument) : Nat := (d.paths.values.flatMap Table.values).length

/-- The operation of a path, for a request method in any case. -/
def operation? (d : ApiDocument) (verb path : String) : Option ApiOperation :=
  (d.paths.get? path).bind fun operations =>
    operations.get? (String.ofList (Text.lowerAscii verb.toList))

end ApiDocument

end TransportGen
