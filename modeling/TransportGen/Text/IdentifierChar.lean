import TransportGen.Text.IdentifierTable

/-!
# Characters of identifiers

Source identifiers begin with a character of `XID_Start` or an underscore and go on with characters
of `XID_Continue`. Names in directives and path templates are plain ASCII words.
-/

namespace TransportGen.Text

/-- Whether a source identifier may begin with the character. -/
def isIdentifierStart (c : Char) : Bool :=
  if c.toNat < 0x80 then c.isAlpha || c == '_' else inRanges identifierStartRanges c.toNat

/-- Whether a source identifier may go on with the character. -/
def isIdentifierContinue (c : Char) : Bool :=
  if c.toNat < 0x80 then c.isAlphanum || c == '_' else inRanges identifierContinueRanges c.toNat

/-- A letter, digit or underscore of ASCII. -/
def isWordChar (c : Char) : Bool := c.isAlphanum || c == '_'

/-- Whether the text is an ASCII name: word characters, the first of them no digit. -/
def isName : List Char → Bool
  | [] => false
  | c :: s => (c.isAlpha || c == '_') && s.all isWordChar

end TransportGen.Text
