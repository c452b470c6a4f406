import TransportGen.Text.Blank
import TransportGen.Text.Pattern
import TransportGen.FilePath

/-!
# Generated source files

A generated file is a header, the paths it imports and a list of items, each of which may define a
name. Code is a list of lines; `block` puts lines between braces, one level further in.
-/

namespace TransportGen

/-- The first line of every generated file. -/
def generatedMarker : String := "// CODE GENERATED AUTOMATICALLY"

/-! ## Lines of code -/

/-- Lines of code. -/
abbrev Code := List String

/-- Lines one level further in; empty lines stay empty. -/
def indent (code : Code) : Code := code.map fun line => if line.isEmpty then line else "    " ++ line

/-- Lines between braces, closed with `close` after the brace. -/
def blockClosing (head : String) (body : Code) (close : String) : Code :=
  (head ++ " \x7b") :: indent body ++ ["\x7d" ++ close]

/-- Lines between braces. -/
def block (head : String) (body : Code) : Code := blockClosing head body ""

/-- Lines for a condition that holds, and lines for one that does not. -/
def ifElse (condition : String) (yes no : Code) : Code :=
  ("if " ++ condition ++ " \x7b") :: indent yes ++ ["\x7d else \x7b"] ++ indent no ++ ["\x7d"]

/-- A statement of a generated function, with what it does to names: the names of the function's own
that it uses, the parameters of the method whose values it takes, the names of the function's own
that it binds, and the parameters that it binds to the values it decodes. -/
structure Statement where
  code : Code
  locals : List String
  params : List String
  binds : List String
  decodes : List String := []
  deriving DecidableEq, Repr

/-- The code of statements in order. -/
def codeOf (statements : List Statement) : Code := statements.flatMap (·.code)

/-! ## Items -/

/-- What an item defines. -/
inductive Definition where
  | function (name : String)
  | constant (name : String)
  | type (name : String)
  | submodule (name : String)
  /-- The names that a path brings into scope. -/
  | use (path : String)
  /-- Nothing that has a name. -/
  | anonymous
  deriving DecidableEq, Repr

/-- An item of a generated file, and whether an empty line stands before it. -/
structure Item where
  defines : Definition
  spaced : Bool
  code : Code
  deriving DecidableEq, Repr

namespace Item

/-- A function. -/
def function (name : String) (code : Code) : Item := ⟨.function name, true, code⟩

/-- A constant. -/
def constant (name : String) (code : Code) : Item := ⟨.constant name, true, code⟩

/-- A struct, enumeration, trait or alias. -/
def type (name : String) (code : Code) : Item := ⟨.type name, true, code⟩

/-- An implementation. -/
def implementation (code : Code) : Item := ⟨.anonymous, true, code⟩

/-- The lines of an item after others. -/
def lines (item : Item) : Code := (if item.spaced then [""] else []) ++ item.code

end Item

/-! ## Files -/

/-- A source file before it is written out. -/
structure SourceFile where
  /-- The segments of its path below the directory of the service. -/
  path : List String
  /-- The first line of its documentation, if it has one. -/
  doc : String
  imports : List String
  items : List Item
  deriving DecidableEq, Repr

/-- A file as it is written. -/
structure GeneratedFile where
  /-- The segments of its path below the directory of the service. -/
  path : List String
  content : String
  deriving DecidableEq, Repr

namespace GeneratedFile

/-- The path below a directory. -/
def pathIn (file : GeneratedFile) (dir : FilePath) : FilePath := file.path.foldl FilePath.child dir

/-- The path as one text. -/
def displayPath (file : GeneratedFile) : String := "/".intercalate file.path

end GeneratedFile

/-- Lines as a text, each ended by a line feed. -/
def linesText (lines : List String) : String := String.join (lines.map (· ++ "\n"))

/-- The lines of a file before its items: the marker, where it comes from, and its imports. -/
def headerLines (origin : String) (file : SourceFile) : Code :=
  [generatedMarker, "// source: " ++ origin, "// DO NOT EDIT.", "",
    "#![allow(unused_imports, unused_mut, unused_variables, dead_code, unreachable_patterns, " ++
      "clippy::all)]"] ++
    (if file.doc.isEmpty then [] else ["//! " ++ file.doc]) ++
    (if file.imports.isEmpty then []
      else "" :: file.imports.map fun path => "use " ++ path ++ ";")

/-- The items of a file as one text without blanks at its ends. -/
def bodyText (file : SourceFile) : String :=
  String.ofList (Text.trim ("\n".intercalate (file.items.flatMap Item.lines)).toList)

/-- Writes a file out; `origin` is the path of the trait it is generated for. -/
def SourceFile.render (origin : String) (file : SourceFile) : GeneratedFile where
  path := file.path
  content :=
    let header := linesText (headerLines origin file)
    let body := bodyText file
    if body.isEmpty then header else header ++ "\n" ++ body ++ "\n"

/-- A module that a file declares. -/
structure ModuleLine where
  name : String
  isPublic : Bool
  deriving DecidableEq, Repr

/-- The item that declares a module. -/
def ModuleLine.item (m : ModuleLine) : Item :=
  ⟨.submodule m.name, false, [(if m.isPublic then "pub mod " else "mod ") ++ m.name ++ ";"]⟩

/-- Items of which the first is set off by an empty line. -/
def setOff : List Item → List Item
  | [] => []
  | item :: rest => { item with spaced := true } :: rest

/-- A file that declares modules and hands on names from them. -/
def moduleFile (path : List String) (doc : String) (modules : List ModuleLine)
    (exports : List String) : SourceFile where
  path
  doc
  imports := []
  items := modules.map ModuleLine.item ++
    setOff (exports.map fun path => ⟨.use path, false, ["pub use " ++ path ++ ";"]⟩)

end TransportGen
