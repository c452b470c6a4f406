import TransportGen.Text.Digit
import TransportGen.Text.EscapedTable

/-!
# Quoted literals

`quote` writes a text as a string literal of generated code: between double quotes, with a backslash
before a double quote and a backslash, the usual short escapes for tab, line feed, carriage return
and the null character, and the code point for every other character that has no mark of its own.
-/

namespace TransportGen.Text

/-- Whether a literal shows the character by its code point. -/
def isEscaped (c : Char) : Bool :=
  if c.toNat < 0x7F then c.toNat < 0x20 else inRanges escapedRanges c.toNat

/-- What stands for one character inside the quotes. -/
def quoteChar (c : Char) : List Char :=
  if c = '"' then ['\\', '"']
  else if c = '\\' then ['\\', '\\']
  else if c = '\n' then ['\\', 'n']
  else if c = '\r' then ['\\', 'r']
  else if c = '\t' then ['\\', 't']
  else if c = '\x00' then ['\\', '0']
  else if isEscaped c then ['\\', 'u', '\x7b'] ++ hexDigits c.toNat ++ ['\x7d']
  else [c]

/-- The characters between the quotes of a literal. -/
def quoteChars (s : List Char) : List Char := s.flatMap quoteChar

/-- A text as a string literal. -/
def quote (s : String) : String :=
  String.ofList ('"' :: quoteChars s.toList ++ ['"'])

end TransportGen.Text
