import TransportGen.Files.Basic

/-!
# Source files and their modules

The source files of a directory are found in the order of their names. A file belongs to the module
that its path names: below the `src` directory of the nearest crate, or else below the directory that
is searched.
-/

namespace TransportGen

/-! ## Finding source files -/

/-- Whether a directory below the one that is searched is passed over: hidden ones, and those of a
build. -/
def isPassedOver (name : String) : Bool := name.startsWith "." || name == "target"

/-- Whether the path is that of a source file. -/
def isSourcePath (path : FilePath) : Bool := path.extension? == some "rs"

variable {m : Type → Type} [Monad m] (files : Files m)

/-- The source files in a directory, which lies at most so many levels above the deepest one. -/
def sourcesIn : Nat → FilePath → ExceptT AccessError m (List FilePath)
  | 0, _ => throw (.refused "File name too long")
  | depth + 1, directory => do
    let found ← (← files.entries directory).entries.mapM fun (name, kind) => do
      let path := directory.child name
      match kind with
      | .directory => if isPassedOver name then pure [] else sourcesIn depth path
      | .file => pure (if isSourcePath path then [path] else [])
      | .other => pure []
    pure found.flatten

/-- More levels of directories than a path can have, which is shorter than 4096 bytes. -/
def depthLimit : Nat := 4096

/-- The source files below a path; one that is a file is found itself. -/
def sourcesBelow (root : FilePath) : ExceptT AccessError m (List FilePath) := do
  match ← files.kind? root with
  | none => throw .missing
  | some .file => pure (if isSourcePath root then [root] else [])
  | some .directory => sourcesIn files depthLimit root
  | some .other => pure []

/-! ## Modules -/

/-- The file that marks the root of a crate. -/
def crateFile : String := "Cargo.toml"

/-- The first of some directories that holds a file of the name. -/
def findHolder? (name : String) : List FilePath → m (Option FilePath)
  | [] => pure none
  | directory :: rest => do
    if ← files.isFile (directory.child name) then pure (some directory)
    else findHolder? name rest

/-- The directory that the modules of a file are counted from: `src` in the nearest crate, if the
file lies below it. -/
def sourceRoot (fallback file : FilePath) : m FilePath := do
  match ← findHolder? files crateFile (file.ancestors.drop 1) with
  | some crate =>
    let src := crate.child "src"
    pure (if (file.below? src).isSome then src else fallback)
  | none => pure fallback

/-- Files that stand for their directory. -/
def directoryFiles : List String := ["lib", "main", "mod"]

/-- The segments that the steps below the source root name. -/
def moduleSegments : List String → List String
  | [] => []
  | [last] =>
    let stem := match Text.stripEnd? ".rs".toList last.toList with
      | some stem => String.ofList stem
      | none => last
    if directoryFiles.contains stem then [] else [stem]
  | step :: rest => step :: moduleSegments rest

/-- The module of a file whose modules are counted from `root`. -/
def modulePath (root file : FilePath) : String :=
  let steps := (file.below? root).getD file.components
  "::".intercalate ("crate" :: moduleSegments (steps.map Component.text))

end TransportGen
