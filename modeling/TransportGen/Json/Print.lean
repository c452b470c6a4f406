import TransportGen.Json.Value

/-!
# JSON as text

Values are written over several lines, two spaces further in at each level; empty arrays and objects
stay on their line. Strings keep all characters but quotes, backslashes and control characters.
-/

namespace TransportGen

namespace JsonValue

/-- A hexadecimal number with leading zeros up to a width. -/
def hexPadded (width n : Nat) : List Char :=
  let digits := Nat.toDigits 16 n
  List.replicate (width - digits.length) '0' ++ digits

/-- What stands for a character in a string. -/
def escapeChar (c : Char) : List Char :=
  if c = '"' then ['\\', '"']
  else if c = '\\' then ['\\', '\\']
  else if c = '\x08' then ['\\', 'b']
  else if c = '\x0c' then ['\\', 'f']
  else if c = '\n' then ['\\', 'n']
  else if c = '\r' then ['\\', 'r']
  else if c = '\t' then ['\\', 't']
  else if c.toNat < 0x20 then ['\\', 'u'] ++ hexPadded 4 c.toNat
  else [c]

/-- A string in quotes. -/
def stringText (s : String) : String :=
  String.ofList ('"' :: s.toList.flatMap escapeChar ++ ['"'])

/-- The start of a line at a level. -/
def lineStart (level : Nat) : String := "\n" ++ String.ofList (List.replicate (2 * level) ' ')

mutual

/-- A value, inside `level` others. -/
def printAt (level : Nat) : JsonValue → String
  | null => "null"
  | bool value => if value then "true" else "false"
  | number value => value.text jsonFloats
  | string value => stringText value
  | array [] => "[]"
  | array (item :: rest) =>
    "[" ++ lineStart (level + 1) ++ printAt (level + 1) item ++ printItems (level + 1) rest ++
      lineStart level ++ "]"
  | object [] => "\x7b\x7d"
  | object (field :: rest) =>
    "\x7b" ++ lineStart (level + 1) ++ stringText field.1 ++ ": " ++ printAt (level + 1) field.2 ++
      printFields (level + 1) rest ++ lineStart level ++ "\x7d"

/-- Further items of an array. -/
def printItems (level : Nat) : List JsonValue → String
  | [] => ""
  | item :: rest => "," ++ lineStart level ++ printAt level item ++ printItems level rest

/-- Further fields of an object. -/
def printFields (level : Nat) : List (String × JsonValue) → String
  | [] => ""
  | field :: rest =>
    "," ++ lineStart level ++ stringText field.1 ++ ": " ++ printAt level field.2 ++
      printFields level rest

end

/-- A value as a text of lines. -/
def print (value : JsonValue) : String := printAt 0 value ++ "\n"

end JsonValue

end TransportGen
