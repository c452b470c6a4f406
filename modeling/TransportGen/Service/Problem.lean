import TransportGen.Directive.Chain
import TransportGen.Service.Basic

/-!
# Problems of a contract

What can be wrong with the directives of a service although each of them can be read.
-/

namespace TransportGen

/-- An inconsistency between the directives of a service and its declarations. -/
inductive ContractProblem where
  | genericTrait
  | unmarkedMethod
  | selection (error : SelectionError)
  | receiver
  | genericMethod
  | patternParam (pattern : String)
  | mutableParam (name : String)
  | borrowedResult (type : String)
  | resultAlias
  | template (error : TemplateError)
  | repeatedVariable (name : String)
  | unboundVariable (name : String)
  | unknownQueryParam (name : String)
  | unknownHeaderParam (name : String)
  | twoSources (name : String)
  | optionalReference (name : String)
  | optionalPathParam (name : String)
  | strayJsonTag (name : String)
  | manyRawBodies (contentType : String) (count : Nat)
  | rawBodyType (name type : String)
  | idleJsonTag (contentType : String)
  | rawResultType (type : String)
  | rawWithoutResult
  | fieldWithoutResult (field : String)
  | headerWithoutResult (header field : String)
  | noField (type field : String)
  | tagWithoutStruct (type : String)
  | tagWithoutJson
  | errorsWithoutResult
  | foreignError (name type : String)
  | errorStatusTooLow (name : String) (status : Nat)
  | noVariant (type variant : String)
  | twoStatuses (variant : String) (first second : Nat)
  | twoErrorTypes (type first : String)
  | statusClash (variant : String) (status first : Nat) (owner : String)
  | routeClash (route first owner : String)
  | clientWithoutResult
  deriving DecidableEq, Repr

/-- A name in braces, as path variables are written. -/
def braced (name : String) : String := "\x7b" ++ name ++ "\x7d"

/-- The wording of a problem. -/
def ContractProblem.message : ContractProblem → String
  | .genericTrait => "generic service traits are not supported"
  | .unmarkedMethod =>
    "method carries no directives; mark it or give it a default body so generated types can " ++
      "implement the trait"
  | .selection error => error.message
  | .receiver => "service methods must take `&self`"
  | .genericMethod => "generic methods are not supported"
  | .patternParam pattern => "parameter pattern `" ++ pattern ++ "` must be a plain identifier"
  | .mutableParam name =>
    "parameter `" ++ name ++ "` is a mutable reference, which cannot cross the wire"
  | .borrowedResult type =>
    "return type `" ++ type ++ "` borrows from the service; return an owned value"
  | .resultAlias => "`Result` aliases are not supported; spell out `Result<T, E>`"
  | .template error => error.message
  | .repeatedVariable name => "path variable `" ++ braced name ++ "` appears more than once"
  | .unboundVariable name => "path variable `" ++ braced name ++ "` has no matching parameter"
  | .unknownQueryParam name => "query directive names unknown parameter `" ++ name ++ "`"
  | .unknownHeaderParam name => "header directive names unknown parameter `" ++ name ++ "`"
  | .twoSources name =>
    "parameter `" ++ name ++ "` is bound to more than one of path, query and header"
  | .optionalReference name =>
    "parameter `" ++ name ++ "` is an optional reference; use an owned type"
  | .optionalPathParam name => "path parameter `" ++ name ++ "` cannot be optional"
  | .strayJsonTag name => "json-tag names `" ++ name ++ "`, which is not a body parameter"
  | .manyRawBodies contentType count =>
    "content type `" ++ contentType ++ "` carries a raw body, but " ++ toString count ++
      " parameters are body-bound"
  | .rawBodyType name type =>
    "raw body parameter `" ++ name ++ "` must be a string or byte type, found `" ++ type ++ "`"
  | .idleJsonTag contentType => "json-tag has no effect with content type `" ++ contentType ++ "`"
  | .rawResultType type =>
    "response-body raw requires a string or byte success type, found `" ++ type ++ "`"
  | .rawWithoutResult => "response-body raw requires a success value"
  | .fieldWithoutResult field => "response-body `" ++ field ++ "` requires a success value"
  | .headerWithoutResult header field =>
    "response header `" ++ header ++ "` reads `" ++ braced field ++
      "` but the method returns no value"
  | .noField type field => "`" ++ type ++ "` has no field `" ++ field ++ "`"
  | .tagWithoutStruct type =>
    "response-json-tag requires `" ++ type ++ "` to be a struct declared in the scanned sources"
  | .tagWithoutJson => "response-json-tag only applies to a JSON response body"
  | .errorsWithoutResult =>
    "errors directive requires a `Result<T, E>` return with an explicit error type"
  | .foreignError name type => "`" ++ name ++ "` does not belong to `" ++ type ++ "`"
  | .errorStatusTooLow name status =>
    "error `" ++ name ++ "` maps to " ++ toString status ++ "; error statuses must be 4xx or 5xx"
  | .noVariant type variant => "`" ++ type ++ "` has no variant `" ++ variant ++ "`"
  | .twoStatuses variant first second =>
    "`" ++ variant ++ "` is mapped to both " ++ toString first ++ " and " ++ toString second
  | .twoErrorTypes type first =>
    "returns `" ++ type ++ "` but other methods return `" ++ first ++
      "`; a service has one error type"
  | .statusClash variant status first owner =>
    "`" ++ variant ++ "` maps to " ++ toString status ++ " here but to " ++ toString first ++
      " in `" ++ owner ++ "`"
  | .routeClash route first owner =>
    "route `" ++ route ++ "` matches the same requests as `" ++ first ++ "` declared by `" ++
      owner ++ "`"
  | .clientWithoutResult => "client bindings need every method to return `Result<T, E>`"

end TransportGen
