import TransportGen.ModulePath
import TransportGen.Toml.Read
import TransportGen.Trouble

/-!
# The configuration file

A configuration gives what is known of the API document beside the sources. It stands in `gtg.toml`
in the directory that is searched or above it, up to the root of the crate.
-/

namespace TransportGen

/-- The `document` table of a configuration. -/
structure DocumentConfig where
  title : Option String := none
  version : Option String := none
  description : Option String := none
  /-- The servers as entries of a server list. -/
  servers : List String := []
  /-- The word for the format. -/
  format : Option String := none
  /-- The directory of the document. -/
  output : Option FilePath := none
  deriving DecidableEq, Repr, Inhabited

namespace DocumentConfig

/-- What the configuration gives for the document. -/
def info (c : DocumentConfig) : Except ServerError DocumentInfo := do
  pure {
    title := c.title.getD ""
    version := c.version.getD ""
    description := c.description.getD ""
    servers := ← pushEntries [] c.servers }

/-- The format that the configuration names. -/
def documentFormat (c : DocumentConfig) : Except FormatError (Option DocumentFormat) :=
  match c.format with
  | some word => (DocumentFormat.parse word).map some
  | none => .ok none

/-! ## Reading -/

/-- A value that is a text. -/
def text? : Toml.Value → Option String
  | .text text => some text
  | _ => none

/-- A value that is a list of texts. -/
def texts? : Toml.Value → Option (List String)
  | .array items => items.mapM text?
  | _ => none

/-- The configuration with the value of a name. -/
def set? (c : DocumentConfig) (name : String) (value : Toml.Value) : Option DocumentConfig :=
  match name with
  | "title" => do some { c with title := some (← text? value) }
  | "version" => do some { c with version := some (← text? value) }
  | "description" => do some { c with description := some (← text? value) }
  | "servers" => do some { c with servers := ← texts? value }
  | "format" => do some { c with format := some (← text? value) }
  | "output" => do some { c with output := some ⟨← text? value⟩ }
  | _ => none

/-- The names of a configuration, in the order in which a list gives their values. -/
def names : List String := ["title", "version", "description", "servers", "format", "output"]

/-- The configuration of a value: a table of some of the names, or a list that has a value for each
of them. -/
def ofValue? : Toml.Value → Option DocumentConfig
  | .table _ fields => fields.foldlM (fun c (name, value) => c.set? name value) {}
  | .array items =>
    if items.length < names.length then none
    else (names.zip items).foldlM (fun c (name, value) => c.set? name value) {}
  | .text _ => none

/-- Reads a configuration, in which nothing but the document may be set. -/
def parse? (text : String) : Option DocumentConfig := do
  match ← Toml.parse? text with
  | [] => some {}
  | [("document", value)] => ofValue? value
  | _ => none

/-- The configuration of a file, whose directory a relative output directory is below. -/
def placed (c : DocumentConfig) (path : FilePath) : DocumentConfig :=
  match c.output, path.parent? with
  | some output, some directory => { c with output := some (directory.join output) }
  | _, _ => c

/-! ## Finding -/

/-- The file that a configuration is looked for in. -/
def fileName : String := "gtg.toml"

variable {m : Type → Type} [Monad m] (files : Files m)

/-- Loads a configuration. -/
def load (path : FilePath) : ExceptT Trouble m DocumentConfig := do
  let text ← during [.readConfig path] .access (files.readText path)
  match parse? text with
  | none => throw ⟨[.parseConfig path], .config⟩
  | some c =>
    let c := c.placed path
    match c.info, c.documentFormat with
    | .error e, _ => throw ⟨[.configServers path], .server e⟩
    | _, .error e => throw ⟨[.configFormat path], .format e⟩
    | .ok _, .ok _ => pure c

/-- The configuration in the first of some directories that holds one; a directory that holds a
crate is the last. -/
def findIn? : List FilePath → m (Option FilePath)
  | [] => pure none
  | directory :: rest => do
    if ← files.isFile (directory.child fileName) then pure (some (directory.child fileName))
    else if ← files.isFile (directory.child crateFile) then pure none
    else findIn? rest

/-- The configuration for a directory that is searched. -/
def detect? (input : FilePath) : m (Option FilePath) := findIn? files input.ancestors

/-- The configuration of a file that is named, or else of one that is found. -/
def resolve (named : Option FilePath) (input : FilePath) : ExceptT Trouble m DocumentConfig := do
  match named with
  | some path => load files path
  | none =>
    let found ← (detect? files input : m (Option FilePath))
    match found with
    | some path => load files path
    | none => pure {}

end DocumentConfig

end TransportGen
