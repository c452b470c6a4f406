import TransportGen.Source.Item
import TransportGen.Source.Lexer

/-!
# The outline of a source file

A source file is read as token trees, these as items, and of the items the declarations are kept.
`Outline.parse?` does all of it; it gives nothing where the text is no source file.
-/

namespace TransportGen.Source

/-! ## Tying the knot -/

/-- The grammar of constructs that are nested at most so many times. -/
def grammar : Nat → Grammar
  | 0 =>
    { type := fun _ => failure
      expr := fun _ => failure
      operand := fun _ => failure
      bounded := failure
      pattern := failure
      statements := failure
      item := failure }
  | depth + 1 =>
    { type := fun allowPlus c => typeWithin (grammar depth) allowPlus c
      expr := fun allowStruct c => exprWithin (grammar depth) allowStruct c
      operand := fun allowStruct c => operandWithin (grammar depth) allowStruct c
      bounded := fun c => boundedExpression (grammar depth) c
      pattern := fun c => patternWithin (grammar depth) c
      statements := fun c => statementsWithin (grammar depth) c
      item := fun c => itemWithin (grammar depth) c }

/-- The items of a source text. Every construct within another one has a token of its own, or stands
in one that has. -/
def fileItems? (text : String) : Option (List Item) := do
  let trees ← fileTrees? text
  let g := grammar (2 * treesSize trees + 16)
  let file : Parse (List Item) := do
    discard (innerAttributes g)
    manyToEnd g.item
  (file ⟨trees, []⟩).map Prod.fst

/-! ## Declarations -/

/-- The declarations of a source file, in order. -/
structure Outline where
  interfaces : List InterfaceDecl := []
  types : List TypeDecl := []
  deriving DecidableEq, Inhabited

namespace Outline

/-- The declarations of one outline before those of another. -/
def append (a b : Outline) : Outline := ⟨a.interfaces ++ b.interfaces, a.types ++ b.types⟩

mutual

/-- The declarations of an item in a module. -/
def ofItem (sourcePath : FilePath) (modulePath : String) : Item → Outline
  | .interface name docs methods isGeneric =>
    ⟨[⟨name, docs, methods, modulePath, sourcePath, isGeneric⟩], []⟩
  | .type name shape => ⟨[], [⟨name, modulePath, shape⟩]⟩
  | .module name items => ofItems sourcePath (modulePath ++ "::" ++ name) items
  | .other => {}

/-- The declarations of items in a module. -/
def ofItems (sourcePath : FilePath) (modulePath : String) : List Item → Outline
  | [] => {}
  | item :: rest =>
    append (ofItem sourcePath modulePath item) (ofItems sourcePath modulePath rest)

end

/-- The outline of a source text. -/
def parse? (sourcePath : FilePath) (text modulePath : String) : Option Outline :=
  (fileItems? text).map (ofItems sourcePath modulePath)

end Outline

end TransportGen.Source
