import TransportGen.Service.Problem

/-!
# Binding parameters

Each parameter of a method travels in exactly one place: in the path if the template names it, in
the query or a header if a directive does, and in the body otherwise.
-/

namespace TransportGen

/-- The first element that already occurred before. -/
def firstRepeated (seen : List String) : List String → Option String
  | [] => none
  | x :: rest => if seen.contains x then some x else firstRepeated (x :: seen) rest

/-- The binding of one parameter. -/
def bindParam (d : MethodDirectives) (pathVars : List String) (p : ParamDecl) :
    Except ContractProblem ParameterBinding := do
  let query := d.queries.reverse.find? (·.param = p.name)
  let header := d.headers.reverse.find? (·.param = p.name)
  let (source, key) ← match pathVars.contains p.name, query, header with
    | true, none, none => pure (ParamSource.path, p.name)
    | false, some q, none => pure (ParamSource.query, q.key)
    | false, none, some h => pure (ParamSource.header, h.name)
    | false, none, none => pure (ParamSource.body, (d.jsonTags.get? p.name).getD p.name)
    | _, _, _ => throw (.twoSources p.name)
  let inner := optionInner? p.type
  if inner.any isReference then throw (.optionalReference p.name)
  if source = .path && inner.isSome then throw (.optionalPathParam p.name)
  pure { name := p.name, source, type := p.type, key }

/-- The bindings of all parameters of a method. Every directive that names a parameter names one
that is declared, and every JSON name one that travels in the body. -/
def bindParams (params : List ParamDecl) (d : MethodDirectives) (pathVars : List String) :
    Except ContractProblem (List ParameterBinding) := do
  let isDeclared (name : String) : Bool := params.any (·.name = name)
  if let some v := pathVars.find? (! isDeclared ·) then throw (.unboundVariable v)
  if let some q := d.queries.find? (! isDeclared ·.param) then throw (.unknownQueryParam q.param)
  if let some h := d.headers.find? (! isDeclared ·.param) then throw (.unknownHeaderParam h.param)
  let bindings ← params.mapM (bindParam d pathVars)
  let isBody (name : String) : Bool := bindings.any fun b => b.name = name && b.source = .body
  if let some field := d.jsonTags.keys.find? (! isBody ·) then throw (.strayJsonTag field)
  pure bindings

/-- A body that is not JSON is one parameter of a string or byte type, and has no JSON names. -/
def checkRawBody (contentType : String) (d : MethodDirectives)
    (bindings : List ParameterBinding) : Except ContractProblem Unit := do
  if isJsonType contentType then return
  let body := bindings.filter (·.source = .body)
  if body.length > 1 then throw (.manyRawBodies contentType body.length)
  if let some b := body.head? then
    if !isTextType b.type && !isBytesType b.type then throw (.rawBodyType b.name b.type)
  if !d.jsonTags.isEmpty then throw (.idleJsonTag contentType)

end TransportGen
