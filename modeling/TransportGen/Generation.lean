import TransportGen.Artifact.Service
import TransportGen.Document.Aggregate
import TransportGen.Document.Text
import TransportGen.Scan

/-!
# Generation

A run writes the files of all services through a sink, and then the API document. A file that cannot
be read or written ends the run at once; a conflict in the document is reported, and the services are
generated all the same.
-/

namespace TransportGen

/-- The settings of a run. -/
structure Settings where
  /-- The directory that is scanned. -/
  input : FilePath
  /-- The directory of the API document, if it is another one. -/
  documentDir : Option FilePath := none
  format : DocumentFormat := .yaml
  info : DocumentInfo := {}
  /-- The word that begins directives. -/
  marker : String := defaultMarker
  deriving DecidableEq, Repr

/-- The path of the API document. -/
def Settings.documentPath (s : Settings) : FilePath :=
  (s.documentDir.getD s.input).join ⟨s.format.fileName⟩

/-- A file of somebody's own that a service would have replaced. -/
structure SkipNotice where
  service : String
  path : FilePath
  deriving DecidableEq, Repr

/-- What a run did. -/
structure Report where
  /-- The traits whose services were generated. -/
  services : List String := []
  files : List FileOutcome := []
  skipped : List SkipNotice := []
  failures : List Failure := []
  /-- What happened to the API document, if one was made. -/
  document : Option FileOutcome := none
  deriving DecidableEq, Repr

namespace Report

/-- Whether nothing failed. -/
def isSuccess (r : Report) : Bool := r.failures.isEmpty

/-- The number of files that something was done about. -/
def count (r : Report) (action : WriteAction) : Nat :=
  (r.files.filter fun outcome => outcome.action = action).length

/-- The report with the files of a service added. -/
def addService (r : Report) (service : String) (outcomes : List FileOutcome) : Report :=
  { r with
    services := r.services ++ [service]
    files := r.files ++ outcomes
    skipped := r.skipped ++ (outcomes.filter fun outcome => outcome.action = .skip).map
      fun outcome => ⟨service, outcome.path⟩ }

end Report

/-- The files of a service, each with its path and its bytes. -/
def ServiceSpec.targets (s : ServiceSpec) : List (FilePath × Bytes) :=
  s.files.map fun file => (file.pathIn s.outputDir, Text.utf8 file.content)

namespace Generation

variable {m : Type → Type} [Monad m] (sink : Sink m)

/-- Writes the files of a service. -/
def writeService (s : ServiceSpec) : ExceptT Trouble m (List FileOutcome) :=
  during [.writeService s.interfaceName] .storage (sink.applyAll s.targets)

/-- Writes the files of services in order, and adds them to a report. -/
def writeServices : Report → List ServiceSpec → ExceptT Trouble m Report
  | report, [] => pure report
  | report, s :: rest => do
    let outcomes ← writeService sink s
    writeServices (report.addService s.interfaceName outcomes) rest

/-- Writes the API document of the services that select it, if any does. -/
def writeDocument (settings : Settings) (types : TypeIndex) (services : List ServiceSpec)
    (report : Report) : ExceptT Trouble m Report := do
  let documented := services.filter (·.has .swagger)
  if documented.isEmpty then return report
  match ApiDocument.aggregate types settings.info documented with
  | .error failure => pure { report with failures := report.failures ++ [failure] }
  | .ok document =>
    let path := settings.documentPath
    let bytes := Text.utf8 (document.serialize settings.format)
    let action ← during [.writeDocument] .storage (sink.replace path bytes)
    pure { report with document := some ⟨path, action⟩ }

/-- Writes the files of all services that a scan found, and the API document. -/
def write (settings : Settings) (scan : Scan) : ExceptT Trouble m Report := do
  let report ← writeServices sink { failures := scan.failures } scan.services
  writeDocument sink settings scan.types scan.services report

/-- Scans the input and writes what is generated for it. -/
def run (files : Files m) (settings : Settings) : ExceptT Trouble m Report := do
  write sink settings (← Scan.run files settings.marker settings.input)

end Generation

end TransportGen
