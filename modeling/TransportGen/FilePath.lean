import TransportGen.Text.Blank
import TransportGen.Text.Pattern

/-!
# File paths

A path is kept as it is spelled, and read as a list of components: repeated slashes and inner `.`
components do not count, but a leading `.` does. Two paths with the same components are the same
place; `FilePath.key` orders paths component by component.
-/

namespace TransportGen

/-- A path as spelled. -/
structure FilePath where
  text : String
  deriving DecidableEq, Repr, Inhabited

/-- A step of a path. -/
inductive Component where
  /-- The leading slash. -/
  | root
  /-- A leading `.`. -/
  | here
  /-- `..`. -/
  | up
  | name (text : String)
  deriving DecidableEq, Repr

namespace Component

/-- The component as spelled. -/
def text : Component → String
  | root => "/"
  | here => "."
  | up => ".."
  | name text => text

/-- Orders components: the leading ones first, then `..`, then names by their characters. -/
def key : Component → String
  | root => "0"
  | here => "1"
  | up => "2"
  | name text => "3" ++ text

end Component

namespace FilePath

/-- The component that a text between slashes stands for; empty texts and inner `.` stand for
none. -/
def step? (text : List Char) : Option Component :=
  if text.isEmpty || text == ['.'] then none
  else if text == ['.', '.'] then some .up
  else some (.name (String.ofList text))

/-- The text before the steps of a path, and the component it stands for: the leading slash, or a
leading `.`. -/
def lead (text : List Char) : List Char × List Component :=
  match text with
  | '/' :: _ => (['/'], [.root])
  | ['.'] | '.' :: '/' :: _ => (['.'], [.here])
  | _ => ([], [])

/-- The components of a path. -/
def components (path : FilePath) : List Component :=
  let text := path.text.toList
  (lead text).2 ++
    (Text.pieces (· == '/') (text.drop (lead text).1.length)).filterMap step?

/-- The order key of a path; paths with the same components have the same key. -/
def key (path : FilePath) : List String := path.components.map Component.key

/-- Keys are compared component by component. -/
instance : DecidableLT (List String) := List.decidableLT

/-- Whether the path begins at the root. -/
def isAbsolute (path : FilePath) : Bool := path.text.toList.head? == some '/'

/-- Drops trailing slashes and `.` steps from reversed steps. -/
def dropIdle (steps : List (List Char)) : List (List Char) :=
  steps.dropWhile fun step => (step? step).isNone

/-- The path without its last component: the empty path for one that has no other, and nothing for
the root and the empty path. -/
def parent? (path : FilePath) : Option FilePath :=
  let text := path.text.toList
  let (front, first) := lead text
  match dropIdle (Text.pieces (· == '/') (text.drop front.length)).reverse with
  | _ :: rest =>
    some ⟨String.ofList (front ++ List.intercalate ['/'] (dropIdle rest).reverse)⟩
  | [] => if first == [.here] then some ⟨""⟩ else none

/-- The path and its parents, at most `fuel` of them. -/
def ancestorsUpTo : Nat → FilePath → List FilePath
  | 0, path => [path]
  | fuel + 1, path =>
    match path.parent? with
    | some parent => path :: ancestorsUpTo fuel parent
    | none => [path]

/-- The path, its parent, the parent of that, and so on. -/
def ancestors (path : FilePath) : List FilePath :=
  ancestorsUpTo (path.text.toList.length + 1) path

/-- The last component, if it is a name. -/
def fileName? (path : FilePath) : Option String :=
  match path.components.getLast? with
  | some (.name text) => some text
  | _ => none

/-- A file name cut at its last dot; a name has no extension when nothing stands before the dot. -/
def splitExtension (name : String) : String × Option String :=
  match Text.splitLast? ['.'] name.toList with
  | some ([], _) | none => (name, none)
  | some (stem, extension) => (String.ofList stem, some (String.ofList extension))

/-- The last component without its extension. -/
def stem? (path : FilePath) : Option String := path.fileName?.map fun name => (splitExtension name).1

/-- The extension of the last component. -/
def extension? (path : FilePath) : Option String :=
  path.fileName?.bind fun name => (splitExtension name).2

/-- One path below another. An absolute path stays as it is, and the empty path leaves a trailing
slash. -/
def join (path below : FilePath) : FilePath :=
  if below.isAbsolute then below
  else if path.text.isEmpty || path.text.toList.getLast? == some '/' then
    ⟨path.text ++ below.text⟩
  else ⟨path.text ++ "/" ++ below.text⟩

/-- A name below a path. -/
def child (path : FilePath) (name : String) : FilePath := path.join ⟨name⟩

/-- The path with another last component. -/
def withFileName (path : FilePath) (name : String) : FilePath :=
  let base := match path.fileName? with
    | some _ => path.parent?.getD path
    | none => path
  base.child name

/-- The components of a path below another one. -/
def below? (path base : FilePath) : Option (List Component) :=
  base.components.isPrefixOf? path.components

end FilePath

end TransportGen
