import TransportGen.Failure
import TransportGen.Service.Binding
import TransportGen.Service.Imports

/-!
# Building a service

`ServiceSpec.build` turns the declaration of a trait into a service, or says why it is none. Traits
without a marked method are no services.
-/

namespace TransportGen

/-! ## One method -/

/-- The fields of a type that is written as a plain name of an indexed struct. -/
def structFields? (index : TypeIndex) (type : String) : Option (List FieldDecl) :=
  if type.toList.contains '<' || isReference type then none else index.fields? (lastSegment type)

/-- Whether the fields of a type are known and a name is not among them. -/
def lacksField (fields : Option (List FieldDecl)) (name : String) : Bool :=
  fields.any fun fs => !fs.any (·.name = name)

/-- A raw body is a string or bytes, and a field is one that the success type has. -/
def checkBody (okType : Option String) (fields : Option (List FieldDecl)) :
    ResponseBody → Except ContractProblem Unit
  | .raw => match okType with
    | some type =>
      if isTextType type || isBytesType type then .ok () else .error (.rawResultType type)
    | none => .error .rawWithoutResult
  | .field field => match okType with
    | some type => if lacksField fields field then .error (.noField type field) else .ok ()
    | none => .error (.fieldWithoutResult field)
  | .json | .empty => .ok ()

/-- A header that reads a field reads one that the success type has. -/
def checkHeader (okType : Option String) (fields : Option (List FieldDecl))
    (h : ResponseHeader) : Except ContractProblem Unit :=
  match h.value with
  | .literal _ => .ok ()
  | .field field => match okType with
    | some type => if lacksField fields field then .error (.noField type field) else .ok ()
    | none => .error (.headerWithoutResult h.name field)

/-- JSON names are for fields of a known struct that is the whole JSON body. -/
def checkResponseTags (okType : Option String) (fields : Option (List FieldDecl))
    (tags : Table String String) (body : ResponseBody) : Except ContractProblem Unit := do
  if tags.isEmpty then return
  let type := okType.getD "()"
  match fields with
  | none => throw (.tagWithoutStruct type)
  | some fs =>
    if let some missing := tags.keys.find? fun k => !fs.any (·.name = k) then
      throw (.noField type missing)
    if body ≠ .json then throw .tagWithoutJson

/-- The response of a method fits its success type. -/
def checkResponse (okType : Option String) (d : MethodDirectives) (body : ResponseBody)
    (fields : Option (List FieldDecl)) : Except ContractProblem Unit := do
  checkBody okType fields body
  d.responseHeaders.forM (checkHeader okType fields)
  checkResponseTags okType fields d.responseJsonTags body

/-- The variant that an item of an `errors` directive names. A qualified name belongs to the error
type. -/
def variantOf (errType name : String) : Except ContractProblem String :=
  match Text.splitLast? "::".toList name.toList with
  | some (owner, variant) =>
    if lastSegment (String.ofList owner) ≠ lastSegment errType then
      .error (.foreignError name errType)
    else .ok (String.ofList variant)
  | none => .ok name

/-- Adds one item of an `errors` directive to the statuses of variants. -/
def mapError (variants : Option (List VariantDecl)) (errType : String)
    (mapped : Table String Nat) (item : String × Nat) :
    Except ContractProblem (Table String Nat) := do
  let (name, status) := item
  let variant ← variantOf errType name
  if status < 400 then throw (.errorStatusTooLow name status)
  if variants.any fun vs => !vs.any (·.name = variant) then throw (.noVariant errType variant)
  if let some first := mapped.get? variant then
    if first ≠ status then throw (.twoStatuses variant first status)
  pure (mapped.insert variant status)

/-- The statuses of the variants that the directives of a method map. -/
def errorStatusTable (index : TypeIndex) (m : MethodDecl) (d : MethodDirectives) :
    Except ContractProblem (Table String Nat) :=
  if d.errors.isEmpty then .ok ∅
  else match m.errType, m.returnsResult with
    | some errType, true =>
      let variants := index.variants? (lastSegment errType)
      d.errors.entries.foldlM (mapError variants errType) ∅
    | _, _ => .error .errorsWithoutResult

/-- A method can be called over the wire: it takes its service by shared reference, and its
parameters and result are owned or shared values of plain names. -/
def checkSignature (m : MethodDecl) : Except ContractProblem Unit := do
  if m.receiver ≠ .ref then throw .receiver
  if m.isGeneric then throw .genericMethod
  if let some pattern := m.unsupportedParam then throw (.patternParam pattern)
  if let some p := m.params.find? fun p => "&mut".toList.isPrefixOf p.type.toList then
    throw (.mutableParam p.name)
  if let some type := m.okType.filter isReference then throw (.borrowedResult type)
  if m.returnsResult && m.errType.isNone then throw .resultAlias

/-- The path template of a method: the one of a directive, or else the names of trait and method,
below the path prefix if there is one. -/
def uriTemplateOf (interface : String) (m : MethodDecl) (d : MethodDirectives) : String :=
  d.apiPath.getD "" ++ d.uriPath.getD ("/" ++ interface ++ "/" ++ m.name)

/-- The body of a response without a directive: the success value, if there is one. -/
def bodyOf (m : MethodDecl) (d : MethodDirectives) : ResponseBody :=
  d.responseBody.getD (if m.okType.isNone then .empty else .json)

/-- The variables of a template, none of which is repeated. -/
def distinctVariables (template : String) : Except ContractProblem (List String) := do
  let vars ← match pathVariables template with
    | .ok vars => pure vars
    | .error e => throw (.template e)
  if let some v := firstRepeated [] vars then throw (.repeatedVariable v)
  pure vars

/-- The contract of a method. -/
def MethodSpec.build (index : TypeIndex) (interface : String) (m : MethodDecl)
    (d : MethodDirectives) : Except ContractProblem MethodSpec := do
  checkSignature m
  let uriTemplate := uriTemplateOf interface m d
  let pathVars ← distinctVariables uriTemplate
  let params ← bindParams m.params d pathVars
  let requestContentType := d.contentType.getD defaultContentType
  checkRawBody requestContentType d params
  let responseFields := m.okType.bind (structFields? index)
  let responseBody := bodyOf m d
  checkResponse m.okType d responseBody responseFields
  let errorStatus ← errorStatusTable index m d
  pure {
    name := m.name
    verb := d.verb.getD .post
    uriTemplate
    pathVariables := pathVars
    params
    requestContentType
    responseContentType := d.responseContentType
    responseContentEncoding := d.responseContentEncoding
    responseStatus := d.responseStatus.getD 200
    responseBody
    responseHeaders := d.responseHeaders
    responseJsonTags := d.responseJsonTags
    errorStatus
    summary := d.summary
    description := d.description
    isAsync := m.isAsync
    okType := m.okType
    errType := m.errType
    returnsResult := m.returnsResult
    responseFields }

/-! ## All methods -/

/-- A problem and the method it is found at. -/
abbrev MethodProblem := String × ContractProblem

/-- The error type of the methods, given that of the methods before them. -/
def sharedErrorType (first : Option String) :
    List MethodSpec → Except MethodProblem (Option String)
  | [] => .ok first
  | m :: rest =>
    match m.errType, first with
    | none, _ => sharedErrorType first rest
    | some type, none => sharedErrorType (some type) rest
    | some type, some prev =>
      if prev = type then sharedErrorType first rest
      else .error (m.name, .twoErrorTypes type prev)

/-- A status and the method that gave it first. -/
abbrev OwnedStatus := Nat × String

/-- Compares the statuses of one method with those of the methods before it. -/
def addStatuses (method : String) (known : Table String OwnedStatus) :
    List (String × Nat) → Except MethodProblem (Table String OwnedStatus)
  | [] => .ok known
  | (variant, status) :: rest =>
    match known.get? variant with
    | none => addStatuses method (known.insert variant (status, method)) rest
    | some (first, owner) =>
      if first = status then addStatuses method known rest
      else .error (method, .statusClash variant status first owner)

/-- Each error variant has one status in all methods. -/
def checkStatuses (known : Table String OwnedStatus) :
    List MethodSpec → Except MethodProblem Unit
  | [] => .ok ()
  | m :: rest =>
    match addStatuses m.name known m.errorStatus.entries with
    | .ok known => checkStatuses known rest
    | .error e => .error e

/-- No two methods answer the same requests. -/
def checkRoutes (before : List MethodSpec) : List MethodSpec → Except MethodProblem Unit
  | [] => .ok ()
  | m :: rest =>
    match before.find? (·.routeKey = m.routeKey) with
    | some prev => .error (m.name, .routeClash m.route prev.route prev.name)
    | none => checkRoutes (before ++ [m]) rest

/-- A client can report its own failures: every method returns a `Result`. -/
def checkClients (processors : List Processor) (methods : List MethodSpec) :
    Except MethodProblem Unit :=
  if processors.any Processor.isClient then
    match methods.find? (! ·.returnsResult) with
    | some m => .error (m.name, .clientWithoutResult)
    | none => .ok ()
  else .ok ()

/-- The checks across methods; their result is the error type that the methods share. -/
def checkMethods (processors : List Processor) (methods : List MethodSpec) :
    Except MethodProblem (Option String) := do
  let errorType ← sharedErrorType none methods
  checkStatuses ∅ methods
  checkRoutes [] methods
  checkClients processors methods
  pure errorType

/-! ## The service -/

/-- Reads and builds methods in order, and lays their document directives on those before. -/
def buildMethods (index : TypeIndex) (marker interface : String) (document : DocumentDirectives) :
    List MethodDecl → Except Failure (DocumentDirectives × List MethodSpec)
  | [] => .ok (document, [])
  | m :: rest =>
    match MethodDirectives.parse marker m.docs with
    | .error e => .error (.directive interface (some m.name) e.line e.problem.message)
    | .ok d =>
      match MethodSpec.build index interface m d with
      | .error problem => .error (.contract interface (some m.name) problem.message)
      | .ok spec =>
        (buildMethods index marker interface (document.merge d.document) rest).map
          fun (document, specs) => (document, spec :: specs)

/-- The service of a trait, if a method of it is marked. Methods without a mark need a body, for the
generated types implement the whole trait. -/
def ServiceSpec.build (index : TypeIndex) (marker : String) (decl : InterfaceDecl) :
    Except Failure (Option ServiceSpec) := do
  let fail (method : Option String) (problem : ContractProblem) : Failure :=
    .contract decl.name method problem.message
  let marked := decl.methods.filter fun m => isMarked marker m.docs
  if marked.isEmpty then return none
  if decl.isGeneric then throw (fail none .genericTrait)
  if let some m := decl.methods.find? fun m => !m.hasDefault && !isMarked marker m.docs then
    throw (fail (some m.name) .unmarkedMethod)
  let processors ← (selectProcessors marker decl.docs).mapError fun e => fail none (.selection e)
  let document ← (DocumentDirectives.parse marker decl.docs).mapError fun e =>
    .directive decl.name none e.line e.problem.message
  let (document, methods) ← buildMethods index marker decl.name document marked
  let errorType ← (checkMethods processors methods).mapError fun (method, problem) =>
    fail (some method) problem
  return some {
    interfaceName := decl.name
    methods
    importPath := decl.importPath
    modulePath := decl.modulePath
    sourcePath := decl.sourcePath
    processors
    errorType
    errorVariants := errorType.bind fun type => index.variants? (lastSegment type)
    imports := importsOf index decl methods
    document }

end TransportGen
