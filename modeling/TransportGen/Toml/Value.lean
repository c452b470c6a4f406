/-!
# Settings in TOML

A settings file is a table of texts, lists and tables. A table remembers what opened it, for that
decides whether it may be added to later: one that stands between braces is complete, one that a
dotted key made is open to other dotted keys, and each header opens its table once.
-/

namespace TransportGen.Toml

/-- What opened a table. -/
inductive Origin where
  /-- Braces. -/
  | braces
  /-- A dotted key. -/
  | dotted
  /-- The header of a table inside it. -/
  | implied
  /-- Its own header. -/
  | header
  deriving DecidableEq, Repr

/-- A value. Settings are never numbers, truth values or dates, so these are none. -/
inductive Value where
  | text (text : String)
  | array (items : List Value)
  | table (origin : Origin) (fields : List (String × Value))

/-- The names of a table with their values, in order. -/
abbrev Fields := List (String × Value)

namespace Fields

/-- Changes the value of a name, which is given to `change` if it is there. -/
def alter (name : String) (change : Option Value → Option Value) : Fields → Option Fields
  | [] => (change none).map fun value => [(name, value)]
  | field :: rest =>
    if field.1 = name then (change (some field.2)).map fun value => (name, value) :: rest
    else (alter name change rest).map (field :: ·)

/-- Adds a value under a dotted key. The name has to be new, and tables on the way to it have to be
open. -/
def add (value : Value) : List String → Fields → Option Fields
  | [], _ => none
  | [name], fields => fields.alter name fun
    | none => some value
    | some _ => none
  | name :: rest, fields => fields.alter name fun
    | none => (add value rest []).map (.table .dotted)
    | some (.table .dotted inner) => (add value rest inner).map (.table .dotted)
    | some _ => none

/-- Opens the table of a header, which no other header or key may have made. -/
def openTable : List String → Fields → Option Fields
  | [], _ => none
  | [name], fields => fields.alter name fun
    | none => some (.table .header [])
    | some (.table .implied inner) => some (.table .header inner)
    | some _ => none
  | name :: rest, fields => fields.alter name fun
    | none => (openTable rest []).map (.table .implied)
    | some (.table .header inner) => (openTable rest inner).map (.table .header)
    | some (.table .implied inner) => (openTable rest inner).map (.table .implied)
    | some _ => none

/-- Changes the table of a header. -/
def within (change : Fields → Option Fields) : List String → Fields → Option Fields
  | [], fields => change fields
  | name :: rest, fields => fields.alter name fun
    | some (.table origin inner) => (within change rest inner).map (.table origin)
    | _ => none

end Fields

end TransportGen.Toml
