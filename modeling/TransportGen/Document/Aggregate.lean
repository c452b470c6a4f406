import TransportGen.Document.Basic
import TransportGen.Failure
import TransportGen.Schema
import TransportGen.Service.Basic

/-!
# Aggregating services

`ApiDocument.aggregate` makes one document of all services that select it. Two methods that answer
the same requests are a conflict. Titles, versions, descriptions and servers are laid on each other
in the order of the services.
-/

namespace TransportGen

/-! ## Operations -/

/-- The schema of a body that is not JSON. -/
def rawSchema (type : String) : JsonValue :=
  let type := (optionInner? type).getD type
  if isTextType type then bareSchema "string"
  else if isBytesType type then formatSchema "string" "binary"
  else anySchema

/-- The phrase of a status in the document. -/
def responsePhrase (status : Nat) : String := (reasonPhrase? status).getD "Response"

/-- A parameter outside the body. -/
def parameterOf (index : TypeIndex) (p : ParameterBinding) : Option ApiParameter :=
  if p.source = .body then none
  else some {
    name := p.key
    location := p.source.name
    required := p.source = .path || !p.isOptional
    schema := typeSchema index p.type }

/-- The schema of a JSON request body. -/
def bodySchema (index : TypeIndex) (body : List ParameterBinding) : JsonValue :=
  recordSchema (body.map fun p => (p.key, typeSchema index p.type))
    ((body.filter (! ·.isOptional)).map (·.key))

/-- The body of a request, if a parameter travels there. -/
def requestBodyOf (index : TypeIndex) (m : MethodSpec) : Option ApiRequestBody :=
  match m.paramsFrom .body with
  | [] => none
  | first :: rest =>
    let schema :=
      if m.hasJsonBody then bodySchema index (first :: rest) else rawSchema first.type
    some ⟨true, .singleton m.requestContentType schema⟩

/-- A name, or the tag that stands for it. -/
def renamed (tags : Table String String) (name : String) : String := (tags.get? name).getD name

/-- A name in a list of required properties, renamed. -/
def renameRequired (tags : Table String String) : JsonValue → JsonValue
  | .string name => .string (renamed tags name)
  | other => other

/-- The schema of an object with its properties renamed. -/
def renameProperties (tags : Table String String) (schema : JsonValue) : JsonValue :=
  match schema.field? "properties" with
  | some (.object properties) =>
    let properties := JsonValue.ofFields (properties.map fun (name, s) => (renamed tags name, s))
    let schema := schema.setField "properties" properties
    match schema.field? "required" with
    | some (.array required) =>
      schema.setField "required" (.array (required.map (renameRequired tags)))
    | _ => schema
  | _ => schema

/-- The schema of the body on success, if there is a body. -/
def successSchema (index : TypeIndex) (m : MethodSpec) : Option JsonValue :=
  let type := m.okType.getD "()"
  match m.responseBody with
  | .empty => none
  | .raw => some (rawSchema type)
  | .field name =>
    match (m.responseFields.getD []).find? (·.name = name) with
    | some field => some (typeSchema index field.type)
    | none => some anySchema
  | .json =>
    let schema := typeSchema index type
    some (if m.responseJsonTags.isEmpty then schema
      else renameProperties m.responseJsonTags schema)

/-- The response on success. -/
def successResponse (index : TypeIndex) (m : MethodSpec) : ApiResponse where
  description := responsePhrase m.responseStatus
  headers := .ofList (m.responseHeaders.map fun h => (h.name, bareSchema "string"))
  content := match successSchema index m, m.effectiveContentType with
    | some schema, some contentType => .singleton contentType schema
    | _, _ => ∅

/-- The response with an error status. -/
def errorResponse (status : Nat) : ApiResponse where
  description := responsePhrase status
  headers := ∅
  content := .singleton defaultContentType (recordSchema [("error", bareSchema "string")] ["error"])

/-- Adds the responses for error statuses, unless there is one for the status already. -/
def addErrorResponses (responses : Table String ApiResponse) (statuses : List Nat) :
    Table String ApiResponse :=
  statuses.foldl (fun responses status =>
    if responses.contains (toString status) then responses
    else responses.insert (toString status) (errorResponse status)) responses

/-- The operation of a method. -/
def operationOf (index : TypeIndex) (interface : String) (m : MethodSpec) : ApiOperation where
  operationId := interface ++ "_" ++ m.name
  tags := [interface]
  summary := m.summary
  description := m.description
  parameters := m.params.filterMap (parameterOf index)
  requestBody := requestBodyOf index m
  responses := addErrorResponses
    (.singleton (toString m.responseStatus) (successResponse index m)) m.errorStatus.values

/-! ## Services -/

/-- A document under way. -/
structure Draft where
  info : DocumentInfo
  summary : Option String
  /-- The method that each route key belongs to. -/
  owners : Table String String
  paths : ApiPaths

/-- A method as the document names it. -/
def ownerOf (interface : String) (m : MethodSpec) : String := interface ++ "." ++ m.name

/-- Adds the operation of a method. -/
def Draft.addMethod (index : TypeIndex) (interface : String) (draft : Draft) (m : MethodSpec) :
    Except Failure Draft :=
  let contract := m.wireContract
  match draft.owners.get? contract.routeKey with
  | some first => .error (.conflict contract.route first (ownerOf interface m))
  | none =>
    let operations := (draft.paths.get? contract.path).getD ∅
    .ok { draft with
      owners := draft.owners.insert contract.routeKey (ownerOf interface m)
      paths := draft.paths.insert contract.path
        (operations.insert contract.verb.key (operationOf index interface m)) }

/-- Adds a service. -/
def Draft.addService (index : TypeIndex) (draft : Draft) (s : ServiceSpec) :
    Except Failure Draft :=
  s.methods.foldlM (Draft.addMethod index s.interfaceName) { draft with
    info := draft.info.overlay s.document
    summary := s.document.summary <|> draft.summary }

/-- The document of all services that select it. -/
def ApiDocument.aggregate (index : TypeIndex) (info : DocumentInfo) (services : List ServiceSpec) :
    Except Failure ApiDocument := do
  let draft ← (services.filter (·.has .swagger)).foldlM (Draft.addService index)
    ⟨info, none, ∅, ∅⟩
  pure {
    openapi := "3.1.0"
    info := ⟨draft.info.title, draft.info.version, draft.summary, draft.info.description⟩
    servers := draft.info.servers
    paths := draft.paths }

end TransportGen
