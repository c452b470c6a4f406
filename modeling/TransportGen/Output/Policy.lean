import TransportGen.SourceFile
import TransportGen.Text.Utf8

/-!
# What may be overwritten

A file whose first line carries the generated marker belongs to the generator; every other file that
exists is somebody's own and stays as it is. `FileState.of` tells the two apart and
`FileState.action` says what is done about a file.
-/

namespace TransportGen

/-- The bytes that may stand before a text to mark it as UTF-8. -/
def byteOrderMark : Bytes := [0xEF, 0xBB, 0xBF]

/-- The bytes before the first line feed, without a leading byte order mark. -/
def firstLine (bytes : Bytes) : Bytes :=
  ((byteOrderMark.isPrefixOf? bytes).getD bytes).takeWhile (· != 0x0A)

/-- Whether the first line begins, after blanks, with the generated marker. -/
def hasMarker (bytes : Bytes) : Bool :=
  generatedMarker.toList.isPrefixOf (Text.trim (Text.decodeLossy (firstLine bytes)))

/-- Whose a file is. -/
inductive FileState where
  /-- There is no file. -/
  | absent
  /-- The generator's. -/
  | generated
  /-- Somebody's own. -/
  | handwritten
  deriving DecidableEq, Repr

/-- The name of a state. -/
def FileState.name : FileState → String
  | .absent => "absent"
  | .generated => "generated"
  | .handwritten => "handwritten"

/-- What is done about a file. -/
inductive WriteAction where
  | create
  | overwrite
  /-- Nothing, for the file holds the new contents already. -/
  | unchanged
  /-- Nothing, for the file is somebody's own. -/
  | skip
  deriving DecidableEq, Repr

namespace WriteAction

/-- The name of an action. -/
def name : WriteAction → String
  | create => "create"
  | overwrite => "overwrite"
  | unchanged => "unchanged"
  | skip => "skip"

/-- Whether the action writes the file. -/
def writes : WriteAction → Bool
  | create | overwrite => true
  | unchanged | skip => false

end WriteAction

namespace FileState

/-- Whose a file with given contents is. -/
def of : Option Bytes → FileState
  | none => absent
  | some bytes => if hasMarker bytes then generated else handwritten

/-- What is done about a file in the state when `new` is generated for it. -/
def action (state : FileState) (existing : Option Bytes) (new : Bytes) : WriteAction :=
  match state with
  | absent => .create
  | handwritten => .skip
  | generated => if existing = some new then .unchanged else .overwrite

end FileState

end TransportGen
