import TransportGen.Transcript

/-!
The command line program: runs a command on the files of the disk.
-/

namespace TransportGen

/-- An error of the system. -/
def accessError : IO.Error → AccessError
  | .noFileOrDirectory .. => .missing
  | e => .refused (toString e)

/-- An action that the system may refuse. -/
def attempt {α : Type} (action : IO α) : ExceptT AccessError IO α := do
  match ← action.toBaseIO with
  | .ok a => pure a
  | .error e => throw (accessError e)

/-- What is at a path. -/
def kindOf : IO.FS.FileType → FileKind
  | .file => .file
  | .dir => .directory
  | _ => .other

/-- The files of the disk. -/
def disk : Files IO where
  kind? path := do
    match ← (System.mkFilePath [path.text]).metadata.toBaseIO with
    | .ok data => pure (some (kindOf data.type))
    | .error _ => pure none
  read path := attempt do pure (← IO.FS.readBinFile path.text).toList
  entries path := attempt do
    let found ← (System.mkFilePath [path.text]).readDir
    let kinds ← found.toList.mapM fun entry => do
      let data ← entry.path.symlinkMetadata
      pure (entry.fileName, kindOf data.type)
    pure (Table.ofList kinds)
  makeDirectory path := attempt (IO.FS.createDir path.text)
  write path content := attempt (IO.FS.writeBinFile path.text ⟨content.toArray⟩)
  rename source target := attempt (IO.FS.rename source.text target.text)
  remove path := attempt (IO.FS.removeFile path.text)

/-- The lines of a trouble for the standard error. Causes are numbered if there are several. -/
def troubleLines (t : Trouble) : List String :=
  match t.lines with
  | [] => []
  | [line] => ["Error: " ++ line]
  | [line, cause] => ["Error: " ++ line, "", "Caused by:", "    " ++ cause]
  | line :: causes =>
    ["Error: " ++ line, "", "Caused by:"] ++
      causes.mapIdx fun i cause => "    " ++ toString i ++ ": " ++ cause

end TransportGen

open TransportGen in
/-- Runs the command that the arguments name. -/
def main (arguments : List String) : IO UInt32 := do
  match Command.parse arguments with
  | .error .help => do
    IO.println UsageError.help.message
    pure 0
  | .error .version => do
    IO.println UsageError.version.message
    pure 0
  | .error e => do
    IO.eprintln ("error: " ++ e.message)
    pure 2
  | .ok command => do
    let (transcript, result) ← command.run disk
    transcript.output.forM IO.println
    transcript.errors.forM IO.eprintln
    match result with
    | .ok () => pure 0
    | .error trouble => do
      (troubleLines trouble).forM IO.eprintln
      pure 1
