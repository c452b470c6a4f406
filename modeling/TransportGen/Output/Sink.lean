import TransportGen.Failure
import TransportGen.Output.Policy

/-!
# Sinks

Generated bytes go through a sink: a way to read the contents of a file and to replace them, in some
monad. What is written through a sink follows `FileState.action`; the API document alone, which
carries no marker, replaces whatever is there.
-/

namespace TransportGen

/-- Where files are read and written. A path without a file reads as nothing. -/
structure Sink (m : Type → Type) where
  read : FilePath → ExceptT StorageFailure m (Option Bytes)
  /-- Replaces the whole file. -/
  write : FilePath → Bytes → ExceptT StorageFailure m Unit

/-- What happened to one file. -/
structure FileOutcome where
  path : FilePath
  action : WriteAction
  deriving DecidableEq, Repr

namespace Sink

variable {m : Type → Type} [Monad m]

/-- Writes a generated file where the policy allows it. -/
def apply (sink : Sink m) (path : FilePath) (new : Bytes) :
    ExceptT StorageFailure m WriteAction := do
  let existing ← sink.read path
  let action := (FileState.of existing).action existing new
  if action.writes then sink.write path new
  pure action

/-- Writes generated files in order, up to a first one that cannot be read or written. -/
def applyAll (sink : Sink m) :
    List (FilePath × Bytes) → ExceptT StorageFailure m (List FileOutcome)
  | [] => pure []
  | (path, new) :: rest => do
    let action ← sink.apply path new
    let outcomes ← sink.applyAll rest
    pure (⟨path, action⟩ :: outcomes)

/-- What is done about a file that is replaced whatever it holds. -/
def replacement (existing : Option Bytes) (new : Bytes) : WriteAction :=
  match existing with
  | none => .create
  | some bytes => if bytes = new then .unchanged else .overwrite

/-- Replaces a file, unless it holds the bytes already. -/
def replace (sink : Sink m) (path : FilePath) (new : Bytes) :
    ExceptT StorageFailure m WriteAction := do
  let action := replacement (← sink.read path) new
  if action.writes then sink.write path new
  pure action

/-- The sink that reads but does not write. -/
def readOnly (sink : Sink m) : Sink m where
  read := sink.read
  write _ _ := pure ()

/-- The sink that refuses to read or to write some paths. -/
def guarded (sink : Sink m) (mayRead mayWrite : FilePath → Bool) : Sink m where
  read path := if mayRead path then sink.read path else throw ⟨path, "permission denied"⟩
  write path new := if mayWrite path then sink.write path new else throw ⟨path, "permission denied"⟩

end Sink

end TransportGen
