import TransportGen.FilePath

/-!
# Failures

Why a service, the API document or a whole run was given up. A failure names what is at fault, so
that it can be found in the sources.
-/

namespace TransportGen

/-- A file that could not be read or written. -/
structure StorageFailure where
  path : FilePath
  message : String
  deriving DecidableEq, Repr

/-- A failure of generation. -/
inductive Failure where
  /-- A directive on a trait, or on one of its methods, has a wrong argument. -/
  | directive (service : String) (method : Option String) (line message : String)
  /-- The directives of a service do not form a consistent contract. -/
  | contract (service : String) (method : Option String) (message : String)
  /-- Two operations claim the same requests in the API document. -/
  | conflict (route first second : String)
  /-- A text could not be produced. -/
  | rendering (path message : String)
  /-- A file could not be read or written. -/
  | storage (failure : StorageFailure)
  deriving DecidableEq, Repr

namespace Failure

/-- The service that the failure belongs to. -/
def service? : Failure → Option String
  | directive service .. => some service
  | contract service .. => some service
  | _ => none

/-- A word for the kind of failure. -/
def kind : Failure → String
  | directive .. => "directive_syntax"
  | contract .. => "semantic_validation"
  | conflict .. => "aggregation_conflict"
  | rendering .. => "render"
  | storage .. => "io"

/-- A service, or one of its methods. -/
def place (service : String) : Option String → String
  | some method => service ++ "." ++ method
  | none => service

/-- The failure in one line. -/
def message : Failure → String
  | directive service method line message =>
    place service method ++ ": " ++ message ++ " (in `" ++
      String.ofList (Text.trim line.toList) ++ "`)"
  | contract service method message => place service method ++ ": " ++ message
  | conflict route first second =>
    "document conflict: `" ++ route ++ "` is declared by both " ++ first ++ " and " ++ second
  | rendering path message => "failed to render " ++ path ++ ": " ++ message
  | storage failure => "I/O error on " ++ failure.path.text ++ ": " ++ failure.message

end Failure

end TransportGen
