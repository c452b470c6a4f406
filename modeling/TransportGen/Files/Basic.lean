import TransportGen.Output.Sink
import TransportGen.Table

/-!
# Files and directories

`Files` lists what a run asks of a file system, in some monad. Everything else is built from these
operations, such as a sink that replaces files as a whole: the new contents are written beside the
file and then moved over it.
-/

namespace TransportGen

/-- What a path leads to. -/
inductive FileKind where
  | file
  | directory
  /-- A link or a device. -/
  | other
  deriving DecidableEq, Repr

/-- Why a file or directory could not be accessed. -/
inductive AccessError where
  /-- Nothing is there. -/
  | missing
  /-- The system refuses, for a reason that it words. -/
  | refused (reason : String)
  deriving DecidableEq, Repr

/-- The wording of an access error. -/
def AccessError.message : AccessError → String
  | .missing => "No such file or directory"
  | .refused reason => reason

/-- A file system. -/
structure Files (m : Type → Type) where
  /-- What a path leads to, if anything. -/
  kind? : FilePath → m (Option FileKind)
  read : FilePath → ExceptT AccessError m Bytes
  /-- What a directory holds. -/
  entries : FilePath → ExceptT AccessError m (Table String FileKind)
  /-- Makes a directory in one that is there. -/
  makeDirectory : FilePath → ExceptT AccessError m Unit
  /-- Writes a file in a directory that is there. -/
  write : FilePath → Bytes → ExceptT AccessError m Unit
  /-- Moves a file, in the place of one that may be there. -/
  rename : FilePath → FilePath → ExceptT AccessError m Unit
  remove : FilePath → ExceptT AccessError m Unit

namespace Files

variable {m : Type → Type} [Monad m] (files : Files m)

/-- Whether a path leads to a file. -/
def isFile (path : FilePath) : m Bool := do pure ((← files.kind? path) == some .file)

/-- Whether a path leads to a directory. -/
def isDirectory (path : FilePath) : m Bool := do pure ((← files.kind? path) == some .directory)

/-- Reads a file as text. -/
def readText (path : FilePath) : ExceptT AccessError m String := do
  match Text.decode? (← files.read path) with
  | some text => pure text
  | none => throw (.refused "stream did not contain valid UTF-8")

/-- Makes a directory unless it is there. -/
def ensure (path : FilePath) : ExceptT AccessError m Unit := do
  try files.makeDirectory path
  catch e => if !(← files.isDirectory path) then throw e

/-- Makes the first directory of a list that goes up from it, with those above it that it needs. -/
def ensureAll : List FilePath → ExceptT AccessError m Unit
  | [] => throw (.refused "failed to create whole tree")
  | path :: above => do
    if path.text.isEmpty then return
    try files.ensure path
    catch
      | .missing => do
        ensureAll above
        files.ensure path
      | e => throw e

/-- The path beside a file where its new contents are written first. -/
def draftPath (path : FilePath) : FilePath :=
  path.withFileName ("." ++ path.fileName?.getD "" ++ ".gtg-tmp")

/-- Names the file that an error is about. -/
def at? {α : Type} (path : FilePath) (p : ExceptT AccessError m α) : ExceptT StorageFailure m α :=
  p.adapt fun e => ⟨path, e.message⟩

/-- Moves new contents over a file; if that fails they are removed. -/
def moveOver (draft path : FilePath) : ExceptT AccessError m Unit := do
  try files.rename draft path
  catch e => do
    try files.remove draft
    catch _ => pure ()
    throw e

/-- The sink that reads and writes files. -/
def sink : Sink m where
  read path := at? path do
    try
      let bytes ← files.read path
      pure (some bytes)
    catch
      | .missing => pure none
      | e => throw e
  write path new := do
    match path.parent? with
    | some parent => at? parent (files.ensureAll parent.ancestors)
    | none => pure ()
    at? (draftPath path) (files.write (draftPath path) new)
    at? path (files.moveOver (draftPath path) path)

end Files

end TransportGen
