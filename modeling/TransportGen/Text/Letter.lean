import TransportGen.Text.CaseTable

/-!
# Letter case

Case is a matter of single characters, but the other form of one character may be several: the
upper-case form of `ß` is `SS`. ASCII is decided by comparison, all else by the tables.

`Char.toUpper` and `Char.toLower` of the standard library map ASCII letters only; `upperAscii` and
`lowerAscii` apply them to a whole text.
-/

namespace TransportGen.Text

/-- Whether the character is an upper-case letter. -/
def isUpper (c : Char) : Bool :=
  if c.toNat < 0x80 then c.isUpper else inStrides uppercaseRanges c.toNat

/-- Whether the character is a lower-case letter. -/
def isLower (c : Char) : Bool :=
  if c.toNat < 0x80 then c.isLower else inStrides lowercaseRanges c.toNat

/-- The upper-case form of a character. -/
def toUpper (c : Char) : List Char :=
  if c.toNat < 0x80 then [c.toUpper]
  else match toUpperSequences.find? fun (code, _) => code == c.toNat with
    | some (_, codes) => codes.map Char.ofNat
    | none => [Char.ofNat (shiftCode toUpperShifts c.toNat)]

/-- The lower-case form of a character. -/
def toLower (c : Char) : List Char :=
  if c.toNat < 0x80 then [c.toLower]
  else match toLowerSequences.find? fun (code, _) => code == c.toNat with
    | some (_, codes) => codes.map Char.ofNat
    | none => [Char.ofNat (shiftCode toLowerShifts c.toNat)]

/-- A text with its ASCII letters in upper case. -/
def upperAscii (s : List Char) : List Char := s.map Char.toUpper

/-- A text with its ASCII letters in lower case. -/
def lowerAscii (s : List Char) : List Char := s.map Char.toLower

end TransportGen.Text
