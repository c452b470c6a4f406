import TransportGen.Output.Sink
import TransportGen.Table

/-!
# A store in memory

A store keeps the contents of files by the components of their paths, so `a//b` and `a/b` are one
file. It serves as a sink that never fails, for previews and for reasoning about runs.

* `Store.get?_put`: what a path holds after a file is written.
-/

namespace TransportGen

/-- A file in a store. -/
structure StoredFile where
  /-- The path as it was first written. -/
  path : FilePath
  content : Bytes
  deriving DecidableEq, Repr, Inhabited

/-- Files by the components of their paths, and the number of writes so far. -/
structure Store where
  files : Table (List String) StoredFile := ∅
  writes : Nat := 0
  deriving DecidableEq, Inhabited

namespace Store

/-- The contents of a file. -/
def get? (store : Store) (path : FilePath) : Option Bytes :=
  (store.files.get? path.key).map StoredFile.content

/-- The store with the contents of a file set. A file that is there keeps the spelling of its
path. -/
def put (store : Store) (path : FilePath) (content : Bytes) : Store :=
  let spelling := ((store.files.get? path.key).map StoredFile.path).getD path
  { store with files := store.files.insert path.key ⟨spelling, content⟩ }

theorem get?_put (store : Store) (path other : FilePath) (content : Bytes) :
    (store.put path content).get? other =
      if other.key = path.key then some content else store.get? other := by
  simp only [get?, put, Table.get?_insert]
  split <;> simp

/-- The paths of the files, in order. -/
def paths (store : Store) : List FilePath := store.files.values.map StoredFile.path

/-- The sink that reads and writes a store and counts its writes. -/
def sink : Sink (StateM Store) where
  read path := do pure ((← get).get? path)
  write path content := modify fun store =>
    { store.put path content with writes := store.writes + 1 }

end Store

end TransportGen
