import TransportGen.Declaration
import TransportGen.Source.Parse

/-!
# The shape of the grammar

Types, expressions, patterns and items contain each other. The parsers of one construct are therefore
written over a `Grammar`, which holds the parsers for what may stand inside it; the knot is tied where
items are read. Of types is kept what the declarations ask for, of expressions and patterns only what
decides how they may go on.
-/

namespace TransportGen.Source

/-- The arguments of a path segment. -/
inductive Arguments (α : Type) where
  | none
  /-- The types between angle brackets. -/
  | angle (types : List α)
  /-- Types between parentheses, as in `Fn(u8)`. -/
  | parens

/-- Whether there are no arguments. -/
def Arguments.isNone {α : Type} : Arguments α → Bool
  | none => true
  | _ => false

/-- A type. Each argument of a path comes with its tokens. -/
inductive TypeTree where
  /-- A path, which may begin at a type in angle brackets or with a double colon. -/
  | path (isQualified isGlobal : Bool)
      (segments : List (String × Arguments (TypeTree × List TokenTree)))
  /-- A reference, slice, array or parenthesized type, with the type inside. -/
  | wrapper (inner : TypeTree)
  | tuple (items : List TypeTree)
  /-- A single trait bound without the word `dyn`. -/
  | bound
  | other

/-- The segments of a path. -/
abbrev Segments := List (String × Arguments (TypeTree × List TokenTree))

/-- What decides how an expression may go on. -/
inductive ExprForm where
  | range
  /-- A comparison, which cannot be compared again. -/
  | comparison
  /-- An expression that ends with a block and is a statement by itself. -/
  | block
  /-- A macro call with braces. -/
  | bracedMacro
  | other
  deriving DecidableEq

/-- What a pattern is. -/
inductive PatternForm where
  /-- A binding of a name. -/
  | name (text : String)
  /-- A range that lacks one of its ends. -/
  | openRange
  | other

/-- An item of a module, as far as declarations go. -/
inductive Item where
  | interface (name : String) (docs : List String) (methods : List MethodDecl) (isGeneric : Bool)
  | type (name : String) (shape : TypeShape)
  | module (name : String) (items : List Item)
  | other

/-- The parsers for what stands inside a construct. -/
structure Grammar where
  /-- A type, which may be a sum of bounds or not. -/
  type : Bool → Parse TypeTree
  /-- An expression, in which a brace after a path may begin a struct or not. -/
  expr : Bool → Parse ExprForm
  /-- An expression without operators between operands. -/
  operand : Bool → Parse ExprForm
  /-- An expression that is a statement or the body of an arm. -/
  bounded : Parse ExprForm
  /-- A pattern without alternatives. -/
  pattern : Parse PatternForm
  /-- The statements of a block. -/
  statements : Parse Unit
  /-- An item. -/
  item : Parse Item

end TransportGen.Source
