import TransportGen.Declaration
import TransportGen.Directive.Basic

/-!
# Processors

A trait names the artifacts it wants on marked lines of its doc comment that begin with a kind of
processor, such as `@gtg http-server log`. Other marked lines are directives about the document.
-/

namespace TransportGen

/-- A kind of artifact that a service can ask for. -/
inductive Processor where
  | httpServer
  | httpClient
  | httpsClient
  | httpErrors
  | metrics
  | log
  | mock
  | swagger
  deriving DecidableEq, Repr

namespace Processor

/-- Every kind, in the order in which artifacts are rendered. -/
def all : List Processor :=
  [httpServer, httpClient, httpsClient, httpErrors, metrics, log, mock, swagger]

theorem mem_all (kind : Processor) : kind ∈ all := by
  cases kind <;> decide

/-- The word for a kind. -/
def name : Processor → String
  | httpServer => "http-server"
  | httpClient => "http-client"
  | httpsClient => "https-client"
  | httpErrors => "http-errors"
  | metrics => "metrics"
  | log => "log"
  | mock => "mock"
  | swagger => "swagger"

/-- The kind of a word. -/
def ofName? (name : String) : Option Processor := all.find? (·.name == name)

/-- Whether the kind is a client. -/
def isClient : Processor → Bool
  | httpClient | httpsClient => true
  | _ => false

/-- Whether the kind comes with the mapping of errors to statuses. -/
def needsErrors (kind : Processor) : Bool := kind == httpServer || kind.isClient

/-- The kinds of a trait that names none. -/
def defaults : List Processor := all.filter (· ≠ httpsClient)

end Processor

/-- Why no processors can be selected. -/
inductive SelectionError where
  | unknown (word : String)
  | twoClients
  deriving DecidableEq, Repr

/-- The wording of a selection error. -/
def SelectionError.message : SelectionError → String
  | .unknown word => "unknown processor `" ++ word ++ "`"
  | .twoClients => "`http-client` and `https-client` write the same files; select one"

/-- The words of a selection line: a marked line whose first word is a kind of processor. -/
def selectionWords? (marker line : String) : Option (List String) :=
  match markedWords marker line with
  | some (first :: rest) => if (Processor.ofName? first).isSome then some (first :: rest) else none
  | _ => none

/-- The kinds of a list of words. -/
def processorsOf : List String → Except SelectionError (List Processor)
  | [] => .ok []
  | word :: rest =>
    match Processor.ofName? word with
    | none => .error (.unknown word)
    | some kind => (processorsOf rest).map (kind :: ·)

/-- The kinds that a trait's doc lines select, in order. Clients and servers bring the error mapping
with them. -/
def selectProcessors (marker : String) (lines : List String) :
    Except SelectionError (List Processor) := do
  let named ← processorsOf (lines.filterMap (selectionWords? marker)).flatten
  let named := if named.isEmpty then Processor.defaults else named
  if named.contains .httpClient && named.contains .httpsClient then throw .twoClients
  let wanted := if named.any Processor.needsErrors then .httpErrors :: named else named
  pure (Processor.all.filter (wanted.contains ·))

end TransportGen
