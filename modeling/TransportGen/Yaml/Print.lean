import TransportGen.Yaml.Scalar

/-!
# YAML as text

Objects and arrays are written as blocks, the fields of an object two spaces further in than it and
the items of an array in an object no further in than its key. Empty ones stay on their line.

A key that is long or has a line break in it is set off by a question mark.
-/

namespace TransportGen.Yaml

/-- Whether a key can stand on a line with its value. -/
def isSimpleKey (key : String) : Bool := !key.toList.any isBreak && key.utf8ByteSize ≤ 128

/-- The text with its line ended. -/
def endLine (text : List Char) : List Char :=
  if text.getLast?.any isBreak then text else text ++ ['\n']

mutual

/-- The lines of fields. -/
def fieldLines (indent : Nat) : List (String × JsonValue) → List Char
  | [] => []
  | field :: rest =>
    (if isSimpleKey field.1 then
      spaces indent ++ scalar (indent + 2) field.1 ++ [':'] ++ afterKey indent field.2
    else
      spaces indent ++ endLine ('?' :: ' ' :: scalar (indent + 2) field.1) ++
        spaces indent ++ [':'] ++ afterMark indent field.2) ++
      fieldLines indent rest

/-- The lines of items. -/
def itemLines (indent : Nat) : List JsonValue → List Char
  | [] => []
  | item :: rest => spaces indent ++ ['-'] ++ afterMark indent item ++ itemLines indent rest

/-- A value after a key and its colon. -/
def afterKey (indent : Nat) : JsonValue → List Char
  | .object (field :: rest) => '\n' :: fieldLines (indent + 2) (field :: rest)
  | .array (item :: rest) => '\n' :: itemLines indent (item :: rest)
  | .object [] => " \x7b\x7d\n".toList
  | .array [] => " []\n".toList
  | .null => " null\n".toList
  | .bool value => (if value then " true\n" else " false\n").toList
  | .number value => ' ' :: (value.text yamlFloats).toList ++ ['\n']
  | .string value => endLine (' ' :: scalar (indent + 2) value)

/-- A value after a dash, or after a colon on a line of its own. Its first line is that line. -/
def afterMark (indent : Nat) : JsonValue → List Char
  | .object (field :: rest) =>
    ' ' :: (fieldLines (indent + 2) (field :: rest)).drop (indent + 2)
  | .array (item :: rest) => ' ' :: (itemLines (indent + 2) (item :: rest)).drop (indent + 2)
  | .object [] => " \x7b\x7d\n".toList
  | .array [] => " []\n".toList
  | .null => " null\n".toList
  | .bool value => (if value then " true\n" else " false\n").toList
  | .number value => ' ' :: (value.text yamlFloats).toList ++ ['\n']
  | .string value => endLine (' ' :: scalar (indent + 2) value)

end

/-- A value as a document. -/
def print : JsonValue → String
  | .object (field :: rest) => String.ofList (fieldLines 0 (field :: rest))
  | .array (item :: rest) => String.ofList (itemLines 0 (item :: rest))
  | value => String.ofList ((afterKey 0 value).drop 1)

end TransportGen.Yaml
