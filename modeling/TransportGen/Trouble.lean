import TransportGen.Document.Format
import TransportGen.Failure
import TransportGen.Files.Basic

/-!
# Why a command was given up

A trouble says what was being done, from the whole to the part, and what went wrong. It ends the
command, while a `Failure` of one service does not.
-/

namespace TransportGen

/-- Something that a command does. -/
inductive Step where
  | scan (root : FilePath)
  | walk (root : FilePath)
  | read (path : FilePath)
  | writeService (name : String)
  | writeDocument
  | readConfig (path : FilePath)
  | parseConfig (path : FilePath)
  /-- Checking the servers of a configuration. -/
  | configServers (path : FilePath)
  /-- Checking the format of a configuration. -/
  | configFormat (path : FilePath)
  /-- Checking the servers of the command line. -/
  | serverOption
  deriving DecidableEq, Repr

/-- The step in one line, as one that failed. -/
def Step.message : Step → String
  | scan root => "Failed to scan " ++ root.text
  | walk root => "Failed to walk " ++ root.text
  | read path => "Failed to read " ++ path.text
  | writeService name => "Failed to write " ++ name
  | writeDocument => "Failed to write the API document"
  | readConfig path => "Failed to read config: " ++ path.text
  | parseConfig path => "Failed to parse config: " ++ path.text
  | configServers path => "Invalid servers in " ++ path.text
  | configFormat path => "Invalid format in " ++ path.text
  | serverOption => "Invalid --servers"

/-- What went wrong. -/
inductive Cause where
  /-- A source or a configuration could not be read. -/
  | access (error : AccessError)
  /-- A text is no configuration. -/
  | config
  /-- An artifact could not be read or written. -/
  | storage (failure : StorageFailure)
  | server (error : ServerError)
  | format (error : FormatError)
  /-- Some services, or the document, were not generated. -/
  | failures (count : Nat)
  /-- Some services are not valid. -/
  | invalidServices (count : Nat)
  deriving DecidableEq, Repr

/-- The cause in one line. -/
def Cause.message : Cause → String
  | access error => error.message
  | config => "not a configuration"
  | storage failure => (Failure.storage failure).message
  | server error => error.message
  | format error => error.message
  | failures count => toString count ++ " failure(s) during generation"
  | invalidServices count => toString count ++ " invalid service(s)"

/-- Why a command was given up. -/
structure Trouble where
  /-- What was being done, the whole first. -/
  steps : List Step
  cause : Cause
  deriving DecidableEq, Repr

/-- The lines of a trouble, the whole first. -/
def Trouble.lines (t : Trouble) : List String := t.steps.map Step.message ++ [t.cause.message]

/-- Says what was being done when something went wrong. -/
def during {m : Type → Type} [Monad m] {ε α : Type} (steps : List Step) (cause : ε → Cause)
    (p : ExceptT ε m α) : ExceptT Trouble m α :=
  p.adapt fun e => ⟨steps, cause e⟩

end TransportGen
