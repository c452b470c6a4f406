import TransportGen.FilePath
import TransportGen.Table

/-!
# Declarations

What is known of a source file: its traits with their methods, and its types. Types are written as
text. `TypeIndex` finds types by their simple name; of two types with one name the first is kept.
-/

namespace TransportGen

/-- How a method takes its service. -/
inductive Receiver where
  /-- By shared reference. -/
  | ref
  /-- By mutable reference. -/
  | refMut
  /-- By value, or by any other type. -/
  | value
  /-- Not at all. -/
  | none
  deriving DecidableEq, Repr, Inhabited

/-- The name of a receiver. -/
def Receiver.name : Receiver → String
  | .ref => "ref"
  | .refMut => "ref_mut"
  | .value => "value"
  | .none => "none"

/-- A parameter and its type. -/
structure ParamDecl where
  name : String
  type : String
  deriving DecidableEq, Repr, Inhabited

/-- A set of names, in order. -/
abbrev NameSet := Table String Unit

namespace NameSet

/-- The set with one more name. -/
def add (names : NameSet) (name : String) : NameSet := names.insert name ()

/-- The set with further names. -/
def addAll (names : NameSet) (more : List String) : NameSet := more.foldl add names

/-- The set of the names in a list. -/
def ofNames (names : List String) : NameSet := addAll ∅ names

end NameSet

/-- A method of a trait as declared. -/
structure MethodDecl where
  name : String
  docs : List String
  receiver : Receiver
  params : List ParamDecl
  /-- The first parameter that is a pattern and no plain name. -/
  unsupportedParam : Option String
  /-- Whether the method has generic parameters of its own. -/
  isGeneric : Bool
  isAsync : Bool
  /-- Whether the trait gives the method a body. -/
  hasDefault : Bool
  /-- The return type, `()` where none is written. -/
  returnType : String
  /-- The type on success, if it is not `()`. -/
  okType : Option String
  /-- The error type of a `Result<T, E>`. -/
  errType : Option String
  returnsResult : Bool
  /-- The names of one segment among the types of the signature. -/
  referencedTypes : NameSet
  deriving DecidableEq, Inhabited

/-- A trait and where it stands. -/
structure InterfaceDecl where
  name : String
  docs : List String
  methods : List MethodDecl
  /-- The module that declares the trait, as in `crate::service`. -/
  modulePath : String
  sourcePath : FilePath
  isGeneric : Bool
  deriving DecidableEq, Inhabited

/-- The path of the trait. -/
def InterfaceDecl.importPath (d : InterfaceDecl) : String := d.modulePath ++ "::" ++ d.name

/-- A variant of an enumeration. -/
structure VariantDecl where
  name : String
  /-- Whether the variant has no fields. -/
  isUnit : Bool
  deriving DecidableEq, Repr, Inhabited

/-- A named field of a struct. -/
structure FieldDecl where
  name : String
  type : String
  /-- The names of one segment in the type. -/
  referencedTypes : NameSet
  deriving DecidableEq, Inhabited

/-- What a type declaration shows of the type. -/
inductive TypeShape where
  | variants (variants : List VariantDecl)
  | record (fields : List FieldDecl)
  /-- Nothing: a struct without named fields or an alias. -/
  | hidden
  deriving DecidableEq, Inhabited

/-- A type and where it stands. -/
structure TypeDecl where
  name : String
  modulePath : String
  shape : TypeShape
  deriving DecidableEq, Inhabited

/-- The path of the type. -/
def TypeDecl.importPath (d : TypeDecl) : String := d.modulePath ++ "::" ++ d.name

/-- Types by their simple names. -/
structure TypeIndex where
  types : Table String TypeDecl := ∅
  deriving DecidableEq, Inhabited

namespace TypeIndex

/-- The type of a name. -/
def get? (index : TypeIndex) (name : String) : Option TypeDecl := index.types.get? name

/-- Adds a type, unless its name is taken. -/
def insert (index : TypeIndex) (decl : TypeDecl) : TypeIndex :=
  if index.types.contains decl.name then index else ⟨index.types.insert decl.name decl⟩

/-- Adds types in order. -/
def insertAll (index : TypeIndex) (decls : List TypeDecl) : TypeIndex := decls.foldl insert index

/-- The variants of an enumeration. -/
def variants? (index : TypeIndex) (name : String) : Option (List VariantDecl) :=
  match (index.get? name).map TypeDecl.shape with
  | some (.variants variants) => some variants
  | _ => none

/-- The named fields of a struct. -/
def fields? (index : TypeIndex) (name : String) : Option (List FieldDecl) :=
  match (index.get? name).map TypeDecl.shape with
  | some (.record fields) => some fields
  | _ => none

end TypeIndex

end TransportGen
