import TransportGen.Directive.Accumulator
import TransportGen.Name
import TransportGen.Service.Processor
import TransportGen.TypeText
import TransportGen.UriTemplate

/-!
# Services

A service is the checked description of one marked trait: for each marked method, how a request
carries its parameters and how the response carries its result. Everything that is generated is
computed from this description alone.
-/

namespace TransportGen

/-- Where a parameter travels. -/
inductive ParamSource where
  | path
  | query
  | header
  | body
  deriving DecidableEq, Repr, Inhabited

/-- The name of a source, as the API document spells it. -/
def ParamSource.name : ParamSource → String
  | .path => "path"
  | .query => "query"
  | .header => "header"
  | .body => "body"

/-- A parameter and the place where it travels. -/
structure ParameterBinding where
  name : String
  source : ParamSource
  /-- The declared type. -/
  type : String
  /-- Its query key, header name or JSON field. -/
  key : String
  deriving DecidableEq, Repr, Inhabited

/-- The type inside an optional parameter. -/
def ParameterBinding.optionalInner? (p : ParameterBinding) : Option String := optionInner? p.type

/-- Whether a request may leave the parameter out. -/
def ParameterBinding.isOptional (p : ParameterBinding) : Bool := p.optionalInner?.isSome

/-- The checked contract of one method. -/
structure MethodSpec where
  name : String
  verb : Verb
  uriTemplate : String
  /-- The variables of the template, in order. -/
  pathVariables : List String
  /-- The parameters, in order of declaration. -/
  params : List ParameterBinding
  requestContentType : String
  /-- The content type of the response, where a directive gives one. -/
  responseContentType : Option String
  responseContentEncoding : Option String
  responseStatus : Nat
  responseBody : ResponseBody
  responseHeaders : List ResponseHeader
  /-- JSON names of fields of the success value. -/
  responseJsonTags : Table String String
  /-- Statuses of error variants. -/
  errorStatus : Table String Nat
  summary : Option String
  description : Option String
  isAsync : Bool
  okType : Option String
  errType : Option String
  returnsResult : Bool
  /-- The fields of the success value, where its type is an indexed struct. -/
  responseFields : Option (List FieldDecl)
  deriving DecidableEq

/-- What server and client have to agree on for one method. -/
structure WireContract where
  verb : Verb
  path : String
  requestContentType : String
  responseContentType : Option String
  responseBody : ResponseBody
  responseStatus : Nat
  deriving DecidableEq

/-- A request line: the method and the path template. -/
def routeOf (verb : Verb) (path : String) : String := verb.name ++ " " ++ path

/-- A request line without variable names; it is equal for routes that match the same requests. -/
def routeKeyOf (verb : Verb) (path : String) : String := verb.name ++ " " ++ routeShape path

/-- The route of a contract. -/
def WireContract.route (c : WireContract) : String := routeOf c.verb c.path

/-- The route key of a contract. -/
def WireContract.routeKey (c : WireContract) : String := routeKeyOf c.verb c.path

/-- The content type of JSON bodies, and of requests that do not name one. -/
def defaultContentType : String := "application/json"

namespace MethodSpec

/-- The route of a method. -/
def route (m : MethodSpec) : String := routeOf m.verb m.uriTemplate

/-- The route key of a method. -/
def routeKey (m : MethodSpec) : String := routeKeyOf m.verb m.uriTemplate

/-- The content type on success, if the response has a body or a directive names one. -/
def effectiveContentType (m : MethodSpec) : Option String :=
  match m.responseContentType, m.responseBody with
  | some type, _ => some type
  | none, .json => some defaultContentType
  | none, .field _ => some defaultContentType
  | none, .raw =>
    if m.okType.any isTextType then some "text/plain; charset=utf-8"
    else some "application/octet-stream"
  | none, .empty => none

/-- What server and client agree on. -/
def wireContract (m : MethodSpec) : WireContract where
  verb := m.verb
  path := m.uriTemplate
  requestContentType := m.requestContentType
  responseContentType := m.effectiveContentType
  responseBody := m.responseBody
  responseStatus := m.responseStatus

/-- The parameters that travel in one place. -/
def paramsFrom (m : MethodSpec) (source : ParamSource) : List ParameterBinding :=
  m.params.filter (·.source = source)

/-- Whether the request body is JSON. -/
def hasJsonBody (m : MethodSpec) : Bool := isJsonType m.requestContentType

/-- The return type as the trait writes it. -/
def returnType (m : MethodSpec) : String :=
  match m.okType, m.errType, m.returnsResult with
  | some ok, some err, true => "Result<" ++ ok ++ ", " ++ err ++ ">"
  | none, some err, true => "Result<(), " ++ err ++ ">"
  | some ok, none, false => ok
  | _, _, _ => "()"

/-- The head of the method as the trait writes it. -/
def signature (m : MethodSpec) : String :=
  let params := String.join (m.params.map fun p => ", " ++ p.name ++ ": " ++ p.type)
  let result := m.returnType
  (if m.isAsync then "async " else "") ++ "fn " ++ m.name ++ "(&self" ++ params ++ ")" ++
    (if result = "()" then "" else " -> " ++ result)

end MethodSpec

/-- The checked description of one trait. -/
structure ServiceSpec where
  interfaceName : String
  /-- The marked methods, in order of declaration. -/
  methods : List MethodSpec
  /-- The path of the trait. -/
  importPath : String
  /-- The module that declares the trait. -/
  modulePath : String
  sourcePath : FilePath
  /-- The selected kinds, in order. -/
  processors : List Processor
  /-- The error type of all methods that return a `Result`. -/
  errorType : Option String
  /-- The variants of the error type, where it is an indexed enumeration. -/
  errorVariants : Option (List VariantDecl)
  /-- The paths to import for the trait and the types of its signatures. -/
  imports : List String
  /-- Document directives of the trait and its methods. -/
  document : DocumentDirectives
  deriving DecidableEq

namespace ServiceSpec

/-- The module of the generated code. -/
def snakeName (s : ServiceSpec) : String := snakeCase s.interfaceName

/-- Whether a kind is selected. -/
def has (s : ServiceSpec) (kind : Processor) : Bool := s.processors.contains kind

/-- File stems that stand for their directory. -/
def directoryStems : List String := ["", "mod", "lib", "main"]

/-- The directory of the generated code, where a module declared in the trait's file is looked for:
`src/items.rs` has `src/items/item_service`, while `src/lib.rs` has `src/item_service`. -/
def outputDir (s : ServiceSpec) : FilePath :=
  let parent := s.sourcePath.parent?.getD ⟨""⟩
  let stem := s.sourcePath.stem?.getD ""
  let base := if directoryStems.contains stem then parent else parent.child stem
  base.child s.snakeName

/-- The statuses of all error variants that any method maps. -/
def errorStatuses (s : ServiceSpec) : Table String Nat :=
  s.methods.foldl
    (fun table m => m.errorStatus.entries.foldl (fun table e => table.insert e.1 e.2) table) ∅

end ServiceSpec

end TransportGen
