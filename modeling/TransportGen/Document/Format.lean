import TransportGen.Directive.Accumulator
import TransportGen.Text.Letter

/-!
# What is given for the API document

The format of the document, and the title, version, description and servers that do not come from
the sources.
-/

namespace TransportGen

/-- The format of the document. -/
inductive DocumentFormat where
  | json
  | yaml
  deriving DecidableEq, Repr, Inhabited

/-- A word that names no format. -/
structure FormatError where
  word : String
  deriving DecidableEq, Repr

/-- The wording of a format error. -/
def FormatError.message (e : FormatError) : String := "unknown document format `" ++ e.word ++ "`"

namespace DocumentFormat

/-- The word for a format, which is also its file extension. -/
def name : DocumentFormat → String
  | json => "json"
  | yaml => "yaml"

/-- The file that a document in the format is written to. -/
def fileName (format : DocumentFormat) : String := "swagger." ++ format.name

/-- The format of a word in any case. -/
def parse (word : String) : Except FormatError DocumentFormat :=
  match String.ofList (Text.lowerAscii word.toList) with
  | "json" => .ok json
  | "yaml" => .ok yaml
  | "yml" => .ok yaml
  | other => .error ⟨other⟩

end DocumentFormat

/-- What is given for the document beside the sources. -/
structure DocumentInfo where
  title : String := ""
  version : String := ""
  description : String := ""
  servers : List Server := []
  deriving DecidableEq, Repr, Inhabited

/-- Lays directives on what is given: what they set wins, and servers are added by their URLs. -/
def DocumentInfo.overlay (info : DocumentInfo) (d : DocumentDirectives) : DocumentInfo where
  title := d.title.getD info.title
  version := d.version.getD info.version
  description := d.description.getD info.description
  servers := d.servers.foldl pushServer info.servers

end TransportGen
