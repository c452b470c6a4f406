import TransportGen.Artifact.Client
import TransportGen.Artifact.Decorators
import TransportGen.Artifact.Errors
import TransportGen.Artifact.Mock
import TransportGen.Artifact.Server

/-!
# The files of a service

Each kind of processor has its files. A service has those of the kinds it selects, in the order of
the kinds, and a file that declares their modules.
-/

namespace TransportGen

/-- The files of one kind. The API document has none in the service's directory. -/
def Processor.files : Processor → ServiceSpec → List SourceFile
  | .httpServer, s => Artifact.serverFiles s
  | .httpClient, s => Artifact.clientFiles "http" s
  | .httpsClient, s => Artifact.clientFiles "https" s
  | .httpErrors, s => Artifact.errorFiles s
  | .metrics, s => Artifact.instrumentingFiles s
  | .log, s => Artifact.loggingFiles s
  | .mock, s => Artifact.mockFiles s
  | .swagger, _ => []

/-- The module that a file belongs to: its directory, or its own name without the extension. -/
def moduleOf (file : SourceFile) : String :=
  let first := file.path.headD ""
  match Text.stripEnd? ".rs".toList first.toList with
  | some stem => String.ofList stem
  | none => first

/-- The files of the selected kinds. -/
def ServiceSpec.kindFiles (s : ServiceSpec) : List SourceFile := s.processors.flatMap (·.files s)

/-- The file that declares the modules of all files, in the order of their names. -/
def ServiceSpec.rootFile (s : ServiceSpec) : SourceFile :=
  moduleFile ["mod.rs"] ("Transport code generated for `" ++ s.interfaceName ++ "`")
    ((NameSet.ofNames (s.kindFiles.map moduleOf)).keys.map fun name => ⟨name, true⟩) []

/-- The files of a service, before they are written out. A service that selects the API document
alone has none. -/
def ServiceSpec.sources (s : ServiceSpec) : List SourceFile :=
  if s.kindFiles.isEmpty then [] else s.kindFiles ++ [s.rootFile]

/-- The files of a service. -/
def ServiceSpec.files (s : ServiceSpec) : List GeneratedFile :=
  s.sources.map (SourceFile.render s.importPath)

end TransportGen
