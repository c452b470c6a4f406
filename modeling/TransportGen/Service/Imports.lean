import TransportGen.Service.Basic

/-!
# Imports of a service

Generated code imports the trait and the types that its signatures mention. A list of imports holds
each path once, in the order in which paths are added.
-/

namespace TransportGen

/-- Names that are in scope everywhere. -/
def preludeNames : List String :=
  ["Self", "String", "Vec", "Option", "Result", "Box", "bool", "char", "str", "u8", "u16", "u32",
    "u64", "u128", "usize", "i8", "i16", "i32", "i64", "i128", "isize", "f32", "f64"]

/-- Paths of types that are often named without one. -/
def libraryPaths : List (String × String) :=
  [("HashMap", "std::collections::HashMap"), ("HashSet", "std::collections::HashSet"),
    ("BTreeMap", "std::collections::BTreeMap"), ("BTreeSet", "std::collections::BTreeSet"),
    ("VecDeque", "std::collections::VecDeque"), ("Duration", "std::time::Duration"),
    ("SystemTime", "std::time::SystemTime"), ("Arc", "std::sync::Arc"), ("Rc", "std::rc::Rc"),
    ("Cow", "std::borrow::Cow"), ("PathBuf", "std::path::PathBuf")]

/-- Adds a path at the end unless it is there. -/
def addPath (paths : List String) (path : String) : List String :=
  if paths.contains path then paths else paths ++ [path]

/-- Adds paths in order. -/
def addPaths (paths more : List String) : List String := more.foldl addPath paths

/-- The path of a type name: of the indexed type, of the well-known type, or else in the module of
the trait. -/
def importOf (index : TypeIndex) (modulePath name : String) : String :=
  match index.get? name, libraryPaths.lookup name with
  | some type, _ => type.importPath
  | none, some path => path
  | none, none => modulePath ++ "::" ++ name

/-- The type names that the code for some methods mentions: those of their signatures, and those of
the fields of a success value that is written field by field. -/
def mentionedTypes (decl : InterfaceDecl) (methods : List MethodSpec) : NameSet :=
  let signatures := decl.methods.filter fun m => methods.any (·.name = m.name)
  let fields := (methods.filter (! ·.responseJsonTags.isEmpty)).flatMap (·.responseFields.getD [])
  NameSet.ofNames
    (signatures.flatMap (·.referencedTypes.keys) ++ fields.flatMap (·.referencedTypes.keys))

/-- The paths to import: the trait, then the mentioned types in the order of their names. -/
def importsOf (index : TypeIndex) (decl : InterfaceDecl) (methods : List MethodSpec) :
    List String :=
  addPaths [decl.importPath] <|
    ((mentionedTypes decl methods).keys.filter (! preludeNames.contains ·)).map
      (importOf index decl.modulePath)

end TransportGen
