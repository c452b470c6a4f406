import TransportGen.Files.Basic

/-!
# A file tree in memory

A tree holds files and directories by the names on the way to them. It serves as a file system whose
working directory is the root of the tree; above the root there is nothing. The tree refuses what a
disk refuses: a path through a file, a name longer than 255 bytes, or a path longer than 4095.
-/

namespace TransportGen

/-- A file with its contents, or a directory. -/
inductive FileNode where
  | file (content : Bytes)
  | directory
  deriving DecidableEq, Inhabited

/-- What a node is. -/
def FileNode.kind : FileNode → FileKind
  | file _ => .file
  | directory => .directory

/-- Files and directories by their places: the names on the way from the root. -/
structure FileTree where
  nodes : Table (List String) FileNode := ∅
  deriving DecidableEq, Inhabited

namespace FileTree

/-- The greatest number of bytes in a name. -/
def nameLimit : Nat := 255

/-- The greatest number of bytes in a path. -/
def pathLimit : Nat := 4095

/-- The node at a place; the root is a directory. -/
def node? (tree : FileTree) (place : List String) : Option FileNode :=
  if place.isEmpty then some .directory else tree.nodes.get? place

/-- The place of a name in a directory. -/
def nameIn (place : List String) (name : String) : Except AccessError (List String) :=
  if nameLimit < name.utf8ByteSize then .error (.refused "File name too long")
  else .ok (place ++ [name])

/-- Fails where a place is no directory. -/
def needDirectory (tree : FileTree) (place : List String) : Except AccessError Unit :=
  match tree.node? place with
  | some .directory => .ok ()
  | some (.file _) => .error (.refused "Not a directory")
  | none => .error .missing

/-- The place that steps lead to from another one. -/
def follow (tree : FileTree) (place : List String) : List (List Char) →
    Except AccessError (List String)
  | [] => .ok place
  | step :: rest => do
    tree.needDirectory place
    if step.isEmpty || step == ['.'] then follow tree place rest
    else if step == ['.', '.'] then
      if place.isEmpty then throw .missing
      follow tree place.dropLast rest
    else
      let next ← nameIn place (String.ofList step)
      if (tree.node? next).isNone then throw .missing
      follow tree next rest

/-- The steps of a path. -/
def stepsOf (path : FilePath) : Except AccessError (List (List Char)) :=
  if path.text.isEmpty || path.isAbsolute then .error .missing
  else if path.text.toList.contains '\x00' then .error (.refused "Invalid argument")
  else if pathLimit < path.text.utf8ByteSize then .error (.refused "File name too long")
  else .ok (Text.pieces (· == '/') path.text.toList)

/-- The place that a path leads to. -/
def locate (tree : FileTree) (path : FilePath) : Except AccessError (List String) := do
  tree.follow [] (← stepsOf path)

/-- The node that a path leads to. -/
def find (tree : FileTree) (path : FilePath) : Except AccessError FileNode := do
  match tree.node? (← tree.locate path) with
  | some node => pure node
  | none => throw .missing

/-- The place of a new name, by its steps from the last one up. -/
def newPlace (tree : FileTree) (refusal : String) : List (List Char) →
    Except AccessError (List String)
  | [] => .error (.refused refusal)
  | last :: above => do
    let place ← tree.follow [] above.reverse
    tree.needDirectory place
    if last.isEmpty || last == ['.'] || last == ['.', '.'] then throw (.refused refusal)
    nameIn place (String.ofList last)

/-- The contents of a file. -/
def read (tree : FileTree) (path : FilePath) : Except AccessError Bytes := do
  match ← tree.find path with
  | .file content => pure content
  | .directory => throw (.refused "Is a directory")

/-- What a directory holds. -/
def entries (tree : FileTree) (path : FilePath) : Except AccessError (Table String FileKind) := do
  let place ← tree.locate path
  tree.needDirectory place
  pure <| Table.ofList <| tree.nodes.entries.filterMap fun (other, node) =>
    match other.getLast? with
    | some name => if other.dropLast == place then some (name, node.kind) else none
    | none => none

/-- The tree with a new directory. -/
def makeDirectory (tree : FileTree) (path : FilePath) : Except AccessError FileTree := do
  let steps := (← stepsOf path).reverse.dropWhile List.isEmpty
  let place ← tree.newPlace "File exists" steps
  if (tree.node? place).isSome then throw (.refused "File exists")
  pure ⟨tree.nodes.insert place .directory⟩

/-- The tree with a file written. -/
def write (tree : FileTree) (path : FilePath) (content : Bytes) : Except AccessError FileTree := do
  let place ← tree.newPlace "Is a directory" (← stepsOf path).reverse
  if tree.node? place == some .directory then throw (.refused "Is a directory")
  pure ⟨tree.nodes.insert place (.file content)⟩

/-- The tree without a file. -/
def remove (tree : FileTree) (path : FilePath) : Except AccessError FileTree := do
  let place ← tree.locate path
  if tree.node? place == some .directory then throw (.refused "Is a directory")
  pure ⟨tree.nodes.filter fun other _ => other ≠ place⟩

/-- The tree with a file moved. -/
def rename (tree : FileTree) (source target : FilePath) : Except AccessError FileTree := do
  let content ← tree.read source
  let tree ← tree.write target content
  if (← tree.locate source) == (← tree.locate target) then pure tree else tree.remove source

/-- The tree with a node at a place, and directories on the way to it. -/
def put (tree : FileTree) (place : List String) (node : FileNode) : FileTree :=
  let above := ((List.range place.length).drop 1).map (place.take ·)
  ⟨(above.foldl (fun nodes p => if nodes.contains p then nodes else nodes.insert p .directory)
    tree.nodes).insert place node⟩

/-- The tree without what stands at a place or below it. -/
def prune (tree : FileTree) (place : List String) : FileTree :=
  ⟨tree.nodes.filter fun other _ => !place.isPrefixOf other⟩

/-- The files with their contents, in the order of their places. -/
def contents (tree : FileTree) : List (List String × Bytes) :=
  tree.nodes.entries.filterMap fun (place, node) =>
    match node with
    | .file content => some (place, content)
    | .directory => none

/-- Asks the tree. -/
def ask {α : Type} (f : FileTree → Except AccessError α) : ExceptT AccessError (StateM FileTree) α :=
  fun tree => (f tree, tree)

/-- Changes the tree, unless the change fails. -/
def change (f : FileTree → Except AccessError FileTree) :
    ExceptT AccessError (StateM FileTree) Unit := fun tree =>
  match f tree with
  | .ok tree => (.ok (), tree)
  | .error e => (.error e, tree)

/-- The tree as a file system. -/
def files : Files (StateM FileTree) where
  kind? path := fun tree => ((tree.find path).toOption.map FileNode.kind, tree)
  read path := ask (·.read path)
  entries path := ask (·.entries path)
  makeDirectory path := change (·.makeDirectory path)
  write path content := change (·.write path content)
  rename source target := change (·.rename source target)
  remove path := change (·.remove path)

end FileTree

end TransportGen
