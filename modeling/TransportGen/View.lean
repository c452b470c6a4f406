import TransportGen.Service.Basic
import TransportGen.Text.Quoted

/-!
# Views of a method

What the generated code says about one method is computed here, once for all artifacts: the types
that are decoded and borrowed, the expressions that build a response on the server, and the steps
that read it back on the client.
-/

namespace TransportGen

open Text (quote)

/-! ## Parameters -/

/-- A parameter as the generated code sees it. -/
structure ParamView where
  name : String
  /-- The declared type. -/
  type : String
  /-- The type that is decoded: what a reference points to, as an owned value. -/
  ownedType : String
  /-- The type inside an `Option`, or else the owned type. -/
  innerType : String
  optional : Bool
  /-- The query key, header name or JSON field. -/
  key : String
  /-- The type of the field in a request body that borrows its values. -/
  borrowedType : String
  /-- The expression that borrows the parameter for that body. -/
  borrowExpr : String
  /-- Whether a raw body is decoded as text. -/
  isText : Bool
  deriving DecidableEq, Repr

/-- The owned type of a reference. -/
def ownedTypeOf (inner : String) : String :=
  if inner = "str" then "String" else if inner = "[u8]" then "Vec<u8>" else inner

/-- The view of a parameter. -/
def ParamView.of (p : ParameterBinding) : ParamView :=
  let inner := referenceInner? p.type
  let ownedType := (inner.map ownedTypeOf).getD p.type
  { name := p.name
    type := p.type
    ownedType
    innerType := (optionInner? ownedType).getD ownedType
    optional := (optionInner? p.type).isSome
    key := p.key
    borrowedType := "&'a " ++ inner.getD p.type
    borrowExpr := if inner.isSome then p.name else "&" ++ p.name
    isText := isTextType ownedType }

/-- An attribute that gives a field another JSON name. -/
def renameAttribute (name : String) : String := "#[serde(rename = " ++ quote name ++ ")]"

namespace ParamView

/-- The key as a literal. -/
def keyLiteral (p : ParamView) : String := quote p.key

/-- The rename attribute, if the JSON name differs from the parameter's. -/
def attribute? (p : ParamView) : Option String :=
  if p.key = p.name then none else some (renameAttribute p.key)

/-- The argument for the service once the parameter is decoded. -/
def callArgument (p : ParamView) : String := if isReference p.type then "&" ++ p.name else p.name

/-- The owned value that a mock records. -/
def recorded (p : ParamView) : String :=
  if isReference p.type then "ToOwned::to_owned(" ++ p.name ++ ")" else p.name

end ParamView

/-! ## Responses -/

/-- A response header as the generated code sees it. -/
structure HeaderView where
  name : String
  value : HeaderValue
  deriving DecidableEq, Repr

namespace HeaderView

/-- The header's name as a literal. -/
def nameLiteral (h : HeaderView) : String := quote h.name

/-- The expression of the header's value on the server. -/
def serverExpr (h : HeaderView) : String :=
  match h.value with
  | .literal text => quote text
  | .field name => "value." ++ name ++ ".to_string()"

/-- The field that the client writes the header back into. -/
def field? (h : HeaderView) : Option String :=
  match h.value with
  | .literal _ => none
  | .field name => some name

end HeaderView

/-- A field of a response body that is written field by field. -/
structure WireField where
  name : String
  type : String
  /-- The JSON name, where a directive gives one. -/
  tag : Option String
  deriving DecidableEq, Repr

/-- The rename attribute of a field. -/
def WireField.attribute? (f : WireField) : Option String := f.tag.map renameAttribute

/-- How the server builds the response body from the success value. -/
inductive ServerBody where
  /-- From a struct of its own that takes over some fields. -/
  | wire (type : String) (fields : List String)
  /-- From the value as JSON. -/
  | whole
  /-- From one field as JSON. -/
  | field (name : String)
  /-- From the bytes of the value. -/
  | raw
  /-- Without the value. -/
  | empty
  deriving DecidableEq, Repr

namespace ServerBody

/-- The fields of the success value that are read. -/
def accesses : ServerBody → List String
  | wire _ fields => fields
  | field name => [name]
  | _ => []

/-- A struct expression that takes fields over from another value. -/
def takeFields (type origin : String) (fields : List String) : String :=
  let inits := fields.map fun f => f ++ ": " ++ origin ++ "." ++ f
  type ++ " \x7b " ++ ", ".intercalate inits ++ " \x7d"

/-- An expression that encodes another one as JSON. -/
def jsonOf (expr : String) : String :=
  "serde_json::to_vec(&" ++ expr ++ ").map_err(|e| e.to_string())"

/-- The expression of the body. -/
def expr : ServerBody → String
  | wire type fields => jsonOf (takeFields type "value" fields)
  | whole => jsonOf "value"
  | field name => jsonOf ("value." ++ name)
  | raw => "Ok::<Vec<u8>, String>(AsRef::<[u8]>::as_ref(&value).to_vec())"
  | empty => "\x7b let _ = value; Ok::<Vec<u8>, String>(Vec::new()) \x7d"

end ServerBody

/-- A step by which the client reads the success value back. -/
inductive ClientStep where
  /-- Decodes the struct of the response body. -/
  | decodeWire (type error : String)
  /-- Builds the value from that struct. -/
  | takeWire (isMutable : Bool) (type : String) (fields : List String)
  /-- Decodes the value. -/
  | decodeWhole (isMutable : Bool) (type error : String)
  /-- Begins with the default value. -/
  | default (isMutable : Bool) (type : String)
  /-- Decodes one field. -/
  | decodeField (name error : String)
  /-- Takes the body as text. -/
  | text (isMutable : Bool) (error : String)
  /-- Takes the body as it is. -/
  | bytes (isMutable : Bool)
  /-- Reads a header into a field. -/
  | header (name field : String)
  deriving DecidableEq, Repr

namespace ClientStep

/-- The fields of the success value that the step reads or writes. -/
def accesses : ClientStep → List String
  | takeWire _ _ fields => fields
  | decodeField name _ => [name]
  | header _ field => [field]
  | _ => []

/-- The start of a statement that binds the value. -/
def binding (isMutable : Bool) : String := if isMutable then "let mut value" else "let value"

/-- Turns a decoding error into the error type of the service. -/
def decodeError (error : String) : String :=
  "map_err(|e| " ++ error ++ "::from(ClientError::Decode(e.to_string())))"

/-- The statement of a step. -/
def code : ClientStep → String
  | decodeWire type error =>
    "let wire: " ++ type ++ " = serde_json::from_slice(resp.body())." ++ decodeError error ++ "?;"
  | takeWire isMutable type fields =>
    binding isMutable ++ " = " ++ ServerBody.takeFields type "wire" fields ++ ";"
  | decodeWhole isMutable type error =>
    binding isMutable ++ ": " ++ type ++ " = serde_json::from_slice(resp.body())." ++
      decodeError error ++ "?;"
  | default isMutable type => binding isMutable ++ ": " ++ type ++ " = Default::default();"
  | decodeField name error =>
    "value." ++ name ++ " = serde_json::from_slice(resp.body())." ++ decodeError error ++ "?;"
  | text isMutable error =>
    binding isMutable ++ " = String::from_utf8(resp.body().clone())." ++ decodeError error ++ "?;"
  | bytes isMutable => binding isMutable ++ " = resp.body().clone();"
  | header name field =>
    "if let Some(parsed) = resp.headers().get(" ++ quote name ++
      ").and_then(|v| v.to_str().ok()).and_then(|v| v.parse().ok()) \x7b value." ++ field ++
      " = parsed; \x7d"

end ClientStep

/-! ## Methods -/

/-- A method as the generated code sees it. -/
structure MethodView where
  name : String
  /-- The name as part of type names. -/
  pascal : String
  signature : String
  verb : Verb
  path : String
  route : String
  status : Nat
  isAsync : Bool
  returnsResult : Bool
  okType : String
  returnType : String
  /-- All parameters, in order of declaration. -/
  params : List ParamView
  pathParams : List ParamView
  queryParams : List ParamView
  headerParams : List ParamView
  /-- The fields of a JSON body. -/
  bodyParams : List ParamView
  /-- The parameter that is the whole body, if it is not JSON. -/
  rawParams : List ParamView
  requestContentType : String
  /-- What the client appends to the URL. -/
  urlPieces : List UrlPiece
  responseHeaders : List HeaderView
  responseContentType : Option String
  responseContentEncoding : Option String
  /-- The fields of the response body's own struct, where it has one. -/
  wireFields : List WireField
  serverBody : ServerBody
  clientSteps : List ClientStep
  deriving DecidableEq

/-- The fields of the response body's struct: all fields of the success value, if some of them have
JSON names of their own. -/
def wireFieldsOf (m : MethodSpec) : List WireField :=
  if m.responseJsonTags.isEmpty then []
  else (m.responseFields.getD []).map fun f => ⟨f.name, f.type, m.responseJsonTags.get? f.name⟩

/-- The name of the response body's struct. -/
def responseStruct (pascal : String) : String := pascal ++ "Response"

/-- The name of the request body's struct. -/
def requestStruct (pascal : String) : String := pascal ++ "Body"

/-- How the server builds a response body. -/
def serverBodyOf (pascal : String) (wire : List WireField) : ResponseBody → ServerBody
  | .json => if wire.isEmpty then .whole else .wire (responseStruct pascal) (wire.map (·.name))
  | .field name => .field name
  | .raw => .raw
  | .empty => .empty

/-- How the client reads a response: the body, then the headers that fill fields. -/
def clientStepsOf (body : ResponseBody) (okType errorType pascal : String)
    (wire : List WireField) (headers : List HeaderView) : List ClientStep :=
  let fromHeaders := headers.filterMap fun h => h.field?.map (ClientStep.header h.name)
  let isMutable := !fromHeaders.isEmpty
  let fromBody := match body with
    | .json =>
      if wire.isEmpty then [.decodeWhole isMutable okType errorType]
      else [.decodeWire (responseStruct pascal) errorType,
        .takeWire isMutable okType (wire.map (·.name))]
    | .field name => [.default true okType, .decodeField name errorType]
    | .raw => if isTextType okType then [.text isMutable errorType] else [.bytes isMutable]
    | .empty => [.default isMutable okType]
  fromBody ++ fromHeaders

/-- The view of a method of a service with a given error type. -/
def MethodView.of (errorType : Option String) (m : MethodSpec) : MethodView :=
  let contract := m.wireContract
  let pascal := pascalCase m.name
  let paramsFrom (source : ParamSource) := (m.paramsFrom source).map ParamView.of
  let okType := m.okType.getD "()"
  let wire := wireFieldsOf m
  let headers := m.responseHeaders.map fun h => HeaderView.mk h.name h.value
  { name := m.name
    pascal
    signature := m.signature
    verb := contract.verb
    path := contract.path
    route := contract.route
    status := contract.responseStatus
    isAsync := m.isAsync
    returnsResult := m.returnsResult
    okType
    returnType := m.returnType
    params := m.params.map ParamView.of
    pathParams := paramsFrom .path
    queryParams := paramsFrom .query
    headerParams := paramsFrom .header
    bodyParams := if m.hasJsonBody then paramsFrom .body else []
    rawParams := if m.hasJsonBody then [] else paramsFrom .body
    requestContentType := contract.requestContentType
    urlPieces := TransportGen.urlPieces contract.path
    responseHeaders := headers
    responseContentType := contract.responseContentType
    responseContentEncoding := m.responseContentEncoding
    wireFields := wire
    serverBody := serverBodyOf pascal wire contract.responseBody
    clientSteps :=
      clientStepsOf contract.responseBody okType (errorType.getD "") pascal wire headers }

/-- The views of a service's methods, in order. -/
def ServiceSpec.views (s : ServiceSpec) : List MethodView := s.methods.map (MethodView.of s.errorType)

/-- A tuple of types or values. -/
def tuple : List String → String
  | [] => "()"
  | [item] => "(" ++ item ++ ",)"
  | items => "(" ++ ", ".intercalate items ++ ")"

/-- The statement that appends a piece to the URL. -/
def UrlPiece.code : UrlPiece → String
  | .literal text => "url.push_str(" ++ quote text ++ ");"
  | .variable name => "url.push_str(&percent_encode(&" ++ name ++ ".to_string()));"

namespace MethodView

/-- The word before an asynchronous function. -/
def asyncness (m : MethodView) : String := if m.isAsync then "async " else ""

/-- What follows a call of the method. -/
def awaitSuffix (m : MethodView) : String := if m.isAsync then ".await" else ""

/-- The arguments of the service once they are decoded. -/
def callArgs (m : MethodView) : String := ", ".intercalate (m.params.map ParamView.callArgument)

/-- The arguments passed on as they are. -/
def forwardArgs (m : MethodView) : String := ", ".intercalate (m.params.map (·.name))

/-- The arguments passed on after another one. -/
def forwardCall (m : MethodView) : String := String.join (m.params.map fun p => ", " ++ p.name)

/-- The parameters with their types, after another one. -/
def typedParams (m : MethodView) : String :=
  String.join (m.params.map fun p => ", " ++ p.name ++ ": " ++ p.type)

/-- The parameters as fields of a log line. -/
def logFields (m : MethodView) : String :=
  String.join (m.params.map fun p => ", " ++ p.name ++ " = ?" ++ p.name)

/-- Whether a call succeeded, given its result. -/
def successExpr (m : MethodView) : String := if m.returnsResult then "result.is_ok()" else "true"

/-- The type of the recorded arguments. -/
def argsType (m : MethodView) : String := tuple (m.params.map (·.ownedType))

/-- The recorded arguments. -/
def argsExpr (m : MethodView) : String := tuple (m.params.map ParamView.recorded)

/-- The answer of a mock without a responder. -/
def defaultExpr (m : MethodView) : String :=
  if m.returnsResult then "Ok(Default::default())" else "Default::default()"

end MethodView

end TransportGen
