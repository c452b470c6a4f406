import TransportGen.CommandLine

/-!
# Running commands

A command says what it did in lines on the two standard streams. `Report.transcript` and
`Scan.transcript` are those lines, and `Command.run` runs a command over a file system.
-/

namespace TransportGen

/-- What a command says. -/
structure Transcript where
  /-- The lines on the standard output. -/
  output : List String := []
  /-- The lines on the standard error. -/
  errors : List String := []
  deriving DecidableEq, Repr

/-- The line for a failure. -/
def failureLine (failure : Failure) : String := "error: " ++ failure.message

/-- What is said of a run. Files that stay as they are, are only counted. -/
def Report.transcript (dryRun : Bool) (r : Report) : Transcript :=
  let verb := if dryRun then "would write" else "wrote"
  let written (outcomes : List FileOutcome) : List String :=
    (outcomes.filter fun outcome => outcome.action.writes).map fun outcome =>
      verb ++ " " ++ outcome.path.text
  let skipped := r.skipped.map fun notice =>
    "skipped " ++ notice.path.text ++ " (" ++ notice.service ++ ": file is not generated)"
  let summary := toString r.services.length ++ " service(s), " ++
    toString (r.count .create + r.count .overwrite) ++ " file(s) " ++ verb ++ ", " ++
    toString (r.count .unchanged) ++ " unchanged, " ++ toString r.skipped.length ++ " skipped, " ++
    toString r.failures.length ++ " failure(s)"
  { output := written r.files ++ skipped ++ written r.document.toList ++ [summary]
    errors := r.failures.map failureLine }

/-- A text with blanks after it, up to a width. -/
def padded (width : Nat) (text : String) : String :=
  text ++ String.ofList (List.replicate (width - text.length) ' ')

/-- What is said of a service that is listed. -/
def ServiceSpec.listing (s : ServiceSpec) : List String :=
  [ s.interfaceName ++ " (" ++ s.sourcePath.text ++ ")",
    "  processors: " ++ " ".intercalate (s.processors.map Processor.name),
    "  output: " ++ s.outputDir.text ] ++
  s.methods.map fun m => "  " ++ padded 28 m.route ++ " " ++ m.name

/-- What is said of a scan. -/
def Scan.transcript (input : FilePath) (scan : Scan) : Transcript where
  output :=
    (if scan.services.isEmpty && scan.failures.isEmpty then
      ["no annotated services below " ++ input.text]
    else []) ++ scan.services.flatMap ServiceSpec.listing
  errors :=
    (scan.unparsed.map fun path => "warning: could not parse " ++ path.text) ++
      scan.failures.map failureLine

namespace Command

variable {m : Type → Type} [Monad m] (files : Files m)

/-- Generates code, and tells whether everything was generated. -/
def runGenerate (a : GenerateArguments) :
    ExceptT Trouble m (Transcript × Except Trouble Unit) := do
  let settings ← a.settings files
  let sink := if a.dryRun then files.sink.readOnly else files.sink
  let report ← Generation.run sink files settings
  pure (report.transcript a.dryRun,
    if report.isSuccess then .ok () else .error ⟨[], .failures report.failures.length⟩)

/-- Lists services, and tells whether all of them are valid. -/
def runInspect (input : FilePath) : ExceptT Trouble m (Transcript × Except Trouble Unit) := do
  let scan ← Scan.run files defaultMarker input
  pure (scan.transcript input,
    if scan.failures.isEmpty then .ok () else .error ⟨[], .invalidServices scan.failures.length⟩)

/-- Runs a command. One that is given up says nothing. -/
def run (command : Command) : m (Transcript × Except Trouble Unit) := do
  let result := match command with
    | .generate a => runGenerate files a
    | .inspect input => runInspect files input
  match ← result.run with
  | .ok answer => pure answer
  | .error trouble => pure ({}, .error trouble)

end Command

end TransportGen
