import TransportGen.ModulePath
import TransportGen.Service.Build
import TransportGen.Source.Outline
import TransportGen.Trouble

/-!
# Scanning sources

A scan finds the services of all source files below a directory. Generated files are passed over, and
files that are no source texts are listed. Types are known across files, so services are built when
all files are read.
-/

namespace TransportGen

/-- A source file that was read. -/
structure SourceText where
  path : FilePath
  text : String
  /-- The module that the file is. -/
  modulePath : String
  deriving DecidableEq, Repr

/-- What a scan finds. -/
structure Scan where
  services : List ServiceSpec := []
  failures : List Failure := []
  types : TypeIndex := {}
  /-- The files that are no source texts. -/
  unparsed : List FilePath := []
  deriving DecidableEq

namespace Scan

/-! ## Services -/

/-- The service of a trait, or why there is none, added to a scan. -/
def addTrait (marker : String) (scan : Scan) (decl : InterfaceDecl) : Scan :=
  match ServiceSpec.build scan.types marker decl with
  | .ok (some service) => { scan with services := scan.services ++ [service] }
  | .ok none => scan
  | .error failure => { scan with failures := scan.failures ++ [failure] }

/-- The outline of a source file, unless it is no source text. -/
def outline? (source : SourceText) : Option Source.Outline :=
  Source.Outline.parse? source.path source.text source.modulePath

/-- The scan of source files that were read. -/
def ofSources (marker : String) (sources : List SourceText) : Scan :=
  let read := sources.map fun source => (source.path, outline? source)
  let outlines := read.filterMap Prod.snd
  let start : Scan := {
    types := TypeIndex.insertAll {} (outlines.flatMap (·.types))
    unparsed := read.filterMap fun (path, outline?) => if outline?.isNone then some path else none }
  (outlines.flatMap (·.interfaces)).foldl (addTrait marker) start

/-! ## Reading -/

variable {m : Type → Type} [Monad m] (files : Files m)

/-- Reads source files, of which generated ones are passed over. -/
def readSources (root : FilePath) : List FilePath → ExceptT Trouble m (List SourceText)
  | [] => pure []
  | path :: rest => do
    let text ← during [.read path] .access (files.readText path)
    if hasMarker (Text.utf8 text) then readSources root rest
    else
      let base ← (sourceRoot files root path : m FilePath)
      pure (⟨path, text, TransportGen.modulePath base path⟩ :: (← readSources root rest))

/-- Scans the source files below a directory. -/
def run (marker : String) (root : FilePath) : ExceptT Trouble m Scan := do
  let paths ← during [.scan root, .walk root] .access (sourcesBelow files root)
  pure (ofSources marker (← readSources files root paths))

end Scan

end TransportGen
