import TransportGen.Decimal.Shortest
import TransportGen.Table

/-!
# JSON values

A number is an integer or a floating-point number. The fields of an object are kept in order;
`JsonValue.ofFields` puts them in the order of their names.
-/

namespace TransportGen

/-- A number. -/
inductive JsonNumber where
  | integer (value : Int)
  | real (isNegative : Bool) (value : Binary)
  deriving DecidableEq, Repr

/-- A JSON value. -/
inductive JsonValue where
  | null
  | bool (value : Bool)
  | number (value : JsonNumber)
  | string (value : String)
  | array (items : List JsonValue)
  | object (fields : List (String × JsonValue))
  deriving Repr

namespace JsonValue

/-- An object with its fields in the order of their names; of two fields of one name the later is
kept. -/
def ofFields (fields : List (String × JsonValue)) : JsonValue :=
  object (fields.foldl (fun sorted f => insertSorted f.1 f.2 sorted) [])

/-- An object that holds a table. -/
def ofTable {α : Type} (value : α → JsonValue) (t : Table String α) : JsonValue :=
  object (t.entries.map fun entry => (entry.1, value entry.2))

/-- The fields of an object, and none of any other value. -/
def fields : JsonValue → List (String × JsonValue)
  | object fields => fields
  | _ => []

/-- A field of an object. -/
def field? (value : JsonValue) (name : String) : Option JsonValue := value.fields.lookup name

/-- An object with a field set; any other value stays as it is. -/
def setField (value : JsonValue) (name : String) (new : JsonValue) : JsonValue :=
  match value with
  | object fields => object (insertSorted name new fields)
  | _ => value

/-- An array of strings. -/
def strings (items : List String) : JsonValue := array (items.map string)

end JsonValue

/-- Numbers of JSON texts have a sign on every exponent. -/
def jsonFloats : FloatFormat := ⟨true⟩

/-- Numbers of YAML texts have a sign on negative exponents alone. -/
def yamlFloats : FloatFormat := ⟨false⟩

/-- A number as text. -/
def JsonNumber.text (format : FloatFormat) : JsonNumber → String
  | integer value => toString value
  | real isNegative value =>
    (if isNegative then "-" else "") ++
      String.ofList (format.decimalText (Decimal.shortest value))

end TransportGen
