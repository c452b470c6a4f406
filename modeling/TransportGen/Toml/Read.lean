import TransportGen.Text.Digit
import TransportGen.Text.Pattern
import TransportGen.Toml.Value

/-!
# Reading TOML

`Toml.parse?` reads a settings file. Each function below reads one construct at the start of a text
and gives what follows it, or nothing where the text has another form.
-/

namespace TransportGen.Toml

/-! ## Blanks, line ends and comments -/

/-- The text without blanks at its start. -/
def skipBlanks (s : List Char) : List Char := s.dropWhile fun c => c == ' ' || c == '\t'

/-- Whether a line may hold the character: no control character but the tab. -/
def isPlain (c : Char) : Bool := c == '\t' || (0x20 ≤ c.toNat && c.toNat != 0x7F)

/-- What follows a line end. -/
def lineEnd? : List Char → Option (List Char)
  | '\n' :: s => some s
  | '\r' :: '\n' :: s => some s
  | _ => none

/-- What follows a comment, if one comes. -/
def skipComment : List Char → List Char
  | '#' :: s => s.dropWhile isPlain
  | s => s

/-- What follows the end of a line, before which a comment may stand. -/
def finishLine? (s : List Char) : Option (List Char) :=
  match skipComment (skipBlanks s) with
  | [] => some []
  | rest => lineEnd? rest

/-- The text without blanks, comments and line ends at its start, by at most so many steps. -/
def skipGaps : Nat → List Char → List Char
  | 0, s => s
  | fuel + 1, s =>
    match lineEnd? (skipComment (skipBlanks s)) with
    | some rest => skipGaps fuel rest
    | none => skipBlanks s

/-! ## Texts -/

/-- The character of so many hexadecimal digits. -/
def codePoint? (value : Nat) : Nat → List Char → Option (Char × List Char)
  | 0, s => if value.isValidChar then some (Char.ofNat value, s) else none
  | count + 1, c :: s => do
    let digit ← Text.hexValue? c
    codePoint? (value * 16 + digit) count s
  | _ + 1, [] => none

/-- The character of an escape after its backslash. -/
def escape? : List Char → Option (Char × List Char)
  | 'b' :: s => some ('\x08', s)
  | 't' :: s => some ('\t', s)
  | 'n' :: s => some ('\n', s)
  | 'f' :: s => some ('\x0c', s)
  | 'r' :: s => some ('\r', s)
  | 'e' :: s => some ('\x1b', s)
  | '"' :: s => some ('"', s)
  | '\\' :: s => some ('\\', s)
  | 'x' :: s => codePoint? 0 2 s
  | 'u' :: s => codePoint? 0 4 s
  | 'U' :: s => codePoint? 0 8 s
  | _ => none

/-- Puts a character before a text that was read. -/
def prepend (c : Char) (r : List Char × List Char) : List Char × List Char := (c :: r.1, r.2)

/-- A text on one line after its opening quote, by at most so many steps. -/
def quoted? (hasEscapes : Bool) (quote : Char) : Nat → List Char → Option (List Char × List Char)
  | 0, _ => none
  | _ + 1, [] => none
  | fuel + 1, c :: s =>
    if c == quote then some ([], s)
    else if c == '\\' && hasEscapes then do
      let (x, rest) ← escape? s
      (quoted? hasEscapes quote fuel rest).map (prepend x)
    else if isPlain c then (quoted? hasEscapes quote fuel s).map (prepend c)
    else none

/-- What follows a line end that a backslash hides, with all blanks and line ends after it. -/
def hiddenLineEnd? (s : List Char) : Option (List Char) := do
  let rest ← lineEnd? (skipBlanks s)
  let rec skip : Nat → List Char → List Char
    | 0, s => s
    | fuel + 1, s =>
      match lineEnd? (skipBlanks s) with
      | some rest => skip fuel rest
      | none => skipBlanks s
  some (skip rest.length rest)

/-- A text on several lines after its opening quotes, by at most so many steps. Three quotes close
it, and up to two before them belong to it. -/
def longQuoted? (hasEscapes : Bool) (quote : Char) :
    Nat → List Char → Option (List Char × List Char)
  | 0, _ => none
  | _ + 1, [] => none
  | fuel + 1, c :: s =>
    if c == quote then
      let count := ((c :: s).takeWhile (· == quote)).length
      if 3 ≤ count then some (List.replicate (min (count - 3) 2) quote, (c :: s).drop (min count 5))
      else (longQuoted? hasEscapes quote fuel s).map (prepend c)
    else if c == '\\' && hasEscapes then
      match hiddenLineEnd? s with
      | some rest => longQuoted? hasEscapes quote fuel rest
      | none => do
        let (x, rest) ← escape? s
        (longQuoted? hasEscapes quote fuel rest).map (prepend x)
    else if isPlain c || (lineEnd? (c :: s)).isSome then
      (longQuoted? hasEscapes quote fuel s).map (prepend c)
    else none

/-- A text of either kind of quotes. -/
def text? (s : List Char) : Option (List Char × List Char) :=
  let long (hasEscapes : Bool) (quote : Char) (s : List Char) :=
    let s := (lineEnd? s).getD s
    longQuoted? hasEscapes quote (s.length + 1) s
  match s with
  | '"' :: '"' :: '"' :: s => long true '"' s
  | '\'' :: '\'' :: '\'' :: s => long false '\'' s
  | '"' :: s => quoted? true '"' (s.length + 1) s
  | '\'' :: s => quoted? false '\'' (s.length + 1) s
  | _ => none

/-! ## Keys -/

/-- Whether a key may hold the character without quotes. -/
def isKeyChar (c : Char) : Bool := c.isAlphanum || c == '_' || c == '-'

/-- A part of a key. -/
def keyPart? (s : List Char) : Option (String × List Char) :=
  let part := match s with
    | '"' :: rest => quoted? true '"' (rest.length + 1) rest
    | '\'' :: rest => quoted? false '\'' (rest.length + 1) rest
    | _ =>
      let word := s.takeWhile isKeyChar
      if word.isEmpty then none else some (word, s.drop word.length)
  part.map fun (text, rest) => (String.ofList text, rest)

/-- A key, whose parts are separated by points, by at most so many steps. -/
def key? : Nat → List Char → Option (List String × List Char)
  | 0, _ => none
  | fuel + 1, s => do
    let (part, rest) ← keyPart? (skipBlanks s)
    match skipBlanks rest with
    | '.' :: rest => do
      let (parts, rest) ← key? fuel rest
      some (part :: parts, rest)
    | rest => some ([part], rest)

/-- A key with the equals sign after it. -/
def keyOfPair? (s : List Char) : Option (List String × List Char) := do
  let (key, rest) ← key? (s.length + 1) s
  match rest with
  | '=' :: rest => some (key, skipBlanks rest)
  | _ => none

/-! ## Values -/

mutual

/-- A value, by at most so many steps. -/
def value? : Nat → List Char → Option (Value × List Char)
  | 0, _ => none
  | fuel + 1, s =>
    match s with
    | '[' :: rest => (items? fuel rest).map fun (items, rest) => (.array items, rest)
    | '\x7b' :: rest => pairs? fuel [] rest
    | _ => (text? s).map fun (text, rest) => (.text (String.ofList text), rest)

/-- The items of an array after its opening bracket. -/
def items? : Nat → List Char → Option (List Value × List Char)
  | 0, _ => none
  | fuel + 1, s =>
    match skipGaps s.length s with
    | ']' :: rest => some ([], rest)
    | s =>
      match value? fuel s with
      | none => none
      | some (item, rest) =>
        match skipGaps rest.length rest with
        | ']' :: rest => some ([item], rest)
        | ',' :: rest => (items? fuel rest).map fun (items, rest) => (item :: items, rest)
        | _ => none

/-- The pairs of a table after its opening brace and those before. -/
def pairs? : Nat → Fields → List Char → Option (Value × List Char)
  | 0, _, _ => none
  | fuel + 1, fields, s =>
    match skipGaps s.length s with
    | '\x7d' :: rest => some (.table .braces fields, rest)
    | s =>
      match keyOfPair? s with
      | none => none
      | some (key, rest) =>
        match value? fuel rest with
        | none => none
        | some (value, rest) =>
          match fields.add value key with
          | none => none
          | some fields =>
            match skipGaps rest.length rest with
            | '\x7d' :: rest => some (.table .braces fields, rest)
            | ',' :: rest => pairs? fuel fields rest
            | _ => none

end

/-! ## Files -/

/-- The key of a header after its bracket. Headers of lists of tables are none, for no setting is
such a list. -/
def header? (s : List Char) : Option (List String × List Char) := do
  let (key, rest) ← key? (s.length + 1) s
  match rest with
  | ']' :: rest => some (key, rest)
  | _ => none

/-- Reads lines into a table, in which the table of the last header is under way, by at most so many
steps. -/
def lines? : Nat → List String → Fields → List Char → Option Fields
  | 0, _, _, _ => none
  | fuel + 1, header, fields, s => do
    match skipBlanks s with
    | [] => some fields
    | '[' :: rest =>
      let (header, rest) ← header? rest
      lines? fuel header (← fields.openTable header) (← finishLine? rest)
    | s =>
      match finishLine? s with
      | some rest => lines? fuel header fields rest
      | none =>
        let (key, rest) ← keyOfPair? s
        let (value, rest) ← value? (2 * rest.length + 2) rest
        lines? fuel header (← fields.within (Fields.add value key) header) (← finishLine? rest)

/-- Reads a settings file. -/
def parse? (text : String) : Option Fields :=
  let s := match text.toList with
    | '\uFEFF' :: s => s
    | s => s
  lines? (s.length + 1) [] [] s

end TransportGen.Toml
