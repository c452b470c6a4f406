import TransportGen.Text.Blank
import TransportGen.Text.Pattern

/-!
# Types as written

The generator knows a type by its text in a signature. Here are the questions asked of such a text:
whether it is a string or byte type, and what stands inside an `Option` or behind a reference.
-/

namespace TransportGen

/-- What follows the last `::` of a name. -/
def lastSegment (name : String) : String :=
  match Text.splitLast? "::".toList name.toList with
  | some (_, last) => String.ofList last
  | none => name

/-- Whether a type is a string. -/
def isTextType (type : String) : Bool := ["String", "&str", "str"].contains type

/-- Whether a type is a sequence of bytes. -/
def isBytesType (type : String) : Bool := ["Vec<u8>", "&[u8]", "[u8]"].contains type

/-- The type inside `Option<…>`. -/
def optionInner? (type : String) : Option String := do
  let rest ← Text.stripStart? "Option<".toList type.toList
  let inner ← Text.stripEnd? ['>'] rest
  pure (String.ofList (Text.trim inner))

/-- A reference without its ampersand: what follows the lifetime, if one is given, and the word
`mut`, if it is there. -/
def referent (rest : List Char) : List Char :=
  let rest := match rest with
    | '\'' :: lifetime => match Text.splitFirst (· == ' ') lifetime with
      | some (_, type) => type
      | none => lifetime
    | _ => rest
  Text.trim ((Text.stripStart? "mut ".toList rest).getD rest)

/-- The type behind a reference. -/
def referenceInner? (type : String) : Option String :=
  match type.toList with
  | '&' :: rest => some (String.ofList (referent rest))
  | _ => none

/-- Whether a type is a reference. -/
def isReference (type : String) : Bool := type.toList.head? == some '&'

end TransportGen
