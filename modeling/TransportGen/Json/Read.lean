import TransportGen.Json.Value
import TransportGen.Text.Digit

/-!
# Reading JSON texts

A text is read in two steps. `JsonText.parse?` checks its grammar and keeps numbers and strings as
they are written, for what nobody asks for need not have a value. `JsonText.toValue?` then gives a
text its value, unless a number is too large, a string holds half of a surrogate pair, or arrays and
objects are nested too deeply.
-/

namespace TransportGen

/-- A number as written. -/
structure NumberText where
  isNegative : Bool
  /-- The digits before the point. -/
  whole : List Nat
  /-- The digits after the point, if there is one. -/
  fraction : Option (List Nat)
  /-- The exponent, if there is one. -/
  exponent : Option Int
  deriving DecidableEq, Repr

/-- A text that has the grammar of JSON. -/
inductive JsonText where
  | null
  | bool (value : Bool)
  | number (text : NumberText)
  /-- A string, or nothing where it holds half of a surrogate pair. -/
  | string (value : Option String)
  | array (items : List JsonText)
  | object (fields : List (Option String × JsonText))
  deriving Repr

namespace JsonText

/-! ## Grammar -/

/-- White space between tokens. -/
def isSpace (c : Char) : Bool := c == ' ' || c == '\t' || c == '\n' || c == '\r'

/-- The text after white space. -/
def skip (s : List Char) : List Char := s.dropWhile isSpace

/-- Four hexadecimal digits and the rest. -/
def hexFour? : List Char → Option (Nat × List Char)
  | a :: b :: c :: d :: rest => do
    let a ← Text.hexValue? a
    let b ← Text.hexValue? b
    let c ← Text.hexValue? c
    let d ← Text.hexValue? d
    pure (((a * 16 + b) * 16 + c) * 16 + d, rest)
  | _ => none

/-- A unit of a string: a character, or half of a surrogate pair. -/
inductive StringUnit where
  | char (c : Char)
  | surrogate (code : Nat)
  deriving DecidableEq, Repr

/-- A unit of sixteen bits. -/
def StringUnit.ofCode (code : Nat) : StringUnit :=
  if 0xD800 ≤ code && code ≤ 0xDFFF then .surrogate code else .char (Char.ofNat code)

/-- What follows a backslash. -/
def escape? : List Char → Option (StringUnit × List Char)
  | 'u' :: rest => (hexFour? rest).map fun (code, rest) => (.ofCode code, rest)
  | c :: rest =>
    (match c with
      | '"' => some '"'
      | '\\' => some '\\'
      | '/' => some '/'
      | 'b' => some '\x08'
      | 'f' => some '\x0c'
      | 'n' => some '\n'
      | 'r' => some '\r'
      | 't' => some '\t'
      | _ => none).map fun c => (.char c, rest)
  | [] => none

/-- The units of a string after its opening quote, and the rest of the text. -/
def units? : Nat → List Char → Option (List StringUnit × List Char)
  | 0, _ => none
  | _ + 1, [] => none
  | fuel + 1, c :: s =>
    if c = '"' then some ([], s)
    else if c = '\\' then do
      let (unit, rest) ← escape? s
      let (units, rest) ← units? fuel rest
      pure (unit :: units, rest)
    else if c.toNat < 0x20 then none
    else (units? fuel s).map fun (units, rest) => (.char c :: units, rest)

/-- The characters of units. A surrogate pair is one character, and half of one is none. -/
def joinUnits? : List StringUnit → Option (List Char)
  | [] => some []
  | .char c :: rest => (joinUnits? rest).map (c :: ·)
  | .surrogate high :: .surrogate low :: rest =>
    if high < 0xDC00 && 0xDC00 ≤ low then
      (joinUnits? rest).map
        (Char.ofNat (0x10000 + (high - 0xD800) * 0x400 + (low - 0xDC00)) :: ·)
    else none
  | .surrogate _ :: _ => none

/-- A string after its opening quote. -/
def stringAfter? (s : List Char) : Option (Option String × List Char) :=
  (units? (s.length + 1) s).map fun (units, rest) => ((joinUnits? units).map String.ofList, rest)

/-- Leading digits and the rest. -/
def digits (s : List Char) : List Nat × List Char :=
  ((s.takeWhile Char.isDigit).map fun c => c.toNat - '0'.toNat, s.dropWhile Char.isDigit)

/-- The part of a number after a point. -/
def fraction? (s : List Char) : Option (Option (List Nat) × List Char) :=
  match s with
  | '.' :: rest =>
    let (fraction, rest) := digits rest
    if fraction.isEmpty then none else some (some fraction, rest)
  | _ => some (none, s)

/-- The number that decimal digits spell. -/
def ofDigits (digits : List Nat) : Nat := digits.foldl (fun n d => n * 10 + d) 0

/-- The exponent of a number. -/
def exponent? (s : List Char) : Option (Option Int × List Char) :=
  match s with
  | c :: rest =>
    if c = 'e' || c = 'E' then
      let (isNegative, rest) := match rest with
        | '-' :: rest => (true, rest)
        | '+' :: rest => (false, rest)
        | _ => (false, rest)
      let (exponent, rest) := digits rest
      if exponent.isEmpty then none
      else
        let value := Int.ofNat (ofDigits exponent)
        some (some (if isNegative then -value else value), rest)
    else some (none, s)
  | [] => some (none, s)

/-- A number. Its whole part has no leading zeros. -/
def number? (s : List Char) : Option (NumberText × List Char) := do
  let (isNegative, rest) := match s with
    | '-' :: rest => (true, rest)
    | _ => (false, s)
  let (whole, rest) := digits rest
  if whole.isEmpty || (whole.head? == some 0 && whole.length != 1) then none
  else
    let (fraction, rest) ← fraction? rest
    let (exponent, rest) ← exponent? rest
    pure (⟨isNegative, whole, fraction, exponent⟩, rest)

mutual

/-- A value at the start of a text. -/
def value? : Nat → List Char → Option (JsonText × List Char)
  | 0, _ => none
  | fuel + 1, s =>
    match skip s with
    | 'n' :: 'u' :: 'l' :: 'l' :: rest => some (null, rest)
    | 't' :: 'r' :: 'u' :: 'e' :: rest => some (bool true, rest)
    | 'f' :: 'a' :: 'l' :: 's' :: 'e' :: rest => some (bool false, rest)
    | '"' :: rest => (stringAfter? rest).map fun (value, rest) => (string value, rest)
    | '[' :: rest =>
      match skip rest with
      | ']' :: rest => some (array [], rest)
      | rest => (items? fuel rest).map fun (items, rest) => (array items, rest)
    | '\x7b' :: rest =>
      match skip rest with
      | '\x7d' :: rest => some (object [], rest)
      | rest => (members? fuel rest).map fun (fields, rest) => (object fields, rest)
    | rest => (number? rest).map fun (text, rest) => (number text, rest)

/-- The items of an array up to its closing bracket. -/
def items? : Nat → List Char → Option (List JsonText × List Char)
  | 0, _ => none
  | fuel + 1, s => do
    let (item, rest) ← value? fuel s
    match skip rest with
    | ',' :: rest => (items? fuel rest).map fun (items, rest) => (item :: items, rest)
    | ']' :: rest => some ([item], rest)
    | _ => none

/-- The fields of an object up to its closing brace. -/
def members? : Nat → List Char → Option (List (Option String × JsonText) × List Char)
  | 0, _ => none
  | fuel + 1, s =>
    match skip s with
    | '"' :: rest => do
      let (name, rest) ← stringAfter? rest
      match skip rest with
      | ':' :: rest =>
        let (value, rest) ← value? fuel rest
        match skip rest with
        | ',' :: rest =>
          (members? fuel rest).map fun (fields, rest) => ((name, value) :: fields, rest)
        | '\x7d' :: rest => some ([(name, value)], rest)
        | _ => none
      | _ => none
    | _ => none

end

/-- Reads a text that is one value. -/
def parse? (text : String) : Option JsonText :=
  match value? (text.toList.length + 1) text.toList with
  | some (value, rest) => if (skip rest).isEmpty then some value else none
  | none => none

/-! ## Values -/

/-- The greatest significand of a number. -/
def significandBound : Nat := 1 <<< 64

/-- A significand that is collected digit by digit, and the power of ten that belongs to it. -/
structure Significand where
  value : Nat
  power : Int
  /-- Whether a digit had no room. -/
  isFull : Bool
  deriving DecidableEq, Repr

/-- Adds a digit of the whole part. A digit without room is dropped and raises the power. -/
def Significand.addWhole (s : Significand) (digit : Nat) : Significand :=
  if s.isFull then { s with power := s.power + 1 }
  else if s.value * 10 + digit < significandBound then { s with value := s.value * 10 + digit }
  else { s with power := s.power + 1, isFull := true }

/-- Adds a digit of the fraction. A digit without room is dropped, and so are those after it. -/
def Significand.addFraction (s : Significand) (digit : Nat) : Significand :=
  if s.isFull then s
  else if s.value * 10 + digit < significandBound then
    { s with value := s.value * 10 + digit, power := s.power - 1 }
  else { s with isFull := true }

/-- The value of a number: an integer where it is written as one and has 64 bits, and a
floating-point number otherwise. -/
def numberValue? (n : NumberText) : Option JsonNumber :=
  let whole := n.whole.foldl Significand.addWhole ⟨0, 0, false⟩
  if n.fraction.isNone && n.exponent.isNone && !whole.isFull &&
      (!n.isNegative || (0 < whole.value && whole.value ≤ significandBound / 2)) then
    some (.integer (if n.isNegative then -Int.ofNat whole.value else Int.ofNat whole.value))
  else
    let all := (n.fraction.getD []).foldl Significand.addFraction { whole with isFull := false }
    (Binary.ofDecimal? all.value (all.power + n.exponent.getD 0)).map (.real n.isNegative)

/-- Arrays and objects inside this many others are refused. -/
def depthBound : Nat := 127

mutual

/-- The value of a text inside `depth` arrays and objects. -/
def toValue? (depth : Nat) : JsonText → Option JsonValue
  | null => some .null
  | bool value => some (.bool value)
  | number text => (numberValue? text).map .number
  | string value => value.map .string
  | array items =>
    if depthBound ≤ depth then none else (itemValues? (depth + 1) items).map .array
  | object fields =>
    if depthBound ≤ depth then none else (fieldValues? (depth + 1) fields).map .ofFields

/-- The values of items. -/
def itemValues? (depth : Nat) : List JsonText → Option (List JsonValue)
  | [] => some []
  | item :: rest => do
    let value ← toValue? depth item
    let values ← itemValues? depth rest
    pure (value :: values)

/-- The values of fields. -/
def fieldValues? (depth : Nat) :
    List (Option String × JsonText) → Option (List (String × JsonValue))
  | [] => some []
  | field :: rest => do
    let name ← field.1
    let value ← toValue? depth field.2
    let values ← fieldValues? depth rest
    pure ((name, value) :: values)

end

end JsonText

end TransportGen
