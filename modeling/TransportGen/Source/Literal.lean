import TransportGen.Source.Token
import TransportGen.Text.Digit
import TransportGen.Text.IdentifierChar
import TransportGen.Text.Pattern

/-!
# Literals of source texts

Each function here reads one kind of literal at the start of a text and gives what it is and what
follows. Strings may hold escapes, and a line may be broken after a backslash; raw strings end at a
quote with as many number signs as they began with. A literal may end with a suffix, which is an
identifier.
-/

namespace TransportGen.Source

/-- Without the identifier that stands first, if there is one. -/
def skipSuffix (s : List Char) : List Char :=
  match s with
  | c :: rest =>
    if Text.isIdentifierStart c then rest.dropWhile Text.isIdentifierContinue else s
  | [] => []

/-! ## Escapes -/

/-- What strings a literal may hold. -/
inductive StringFlavor where
  /-- Characters. -/
  | text
  /-- Bytes. -/
  | bytes
  /-- Characters without the null character. -/
  | terminated
  deriving DecidableEq, Repr

/-- Digits of `\u{…}` after the brace; `count` of them are read, which spell `value`. -/
def unicodeDigits? (count value : Nat) : List Char → Option (Char × List Char)
  | [] => none
  | c :: s =>
    if c = '_' then if count = 0 then none else unicodeDigits? count value s
    else if c = '\x7d' then
      if count ≠ 0 ∧ value.isValidChar then some (Char.ofNat value, s) else none
    else match Text.hexValue? c with
      | some digit => if count = 6 then none else unicodeDigits? (count + 1) (value * 16 + digit) s
      | none => none

/-- The character of `\xHH` after the `x`. In a text it is one of ASCII. -/
def hexEscape? (flavor : StringFlavor) : List Char → Option (Char × List Char)
  | a :: b :: s => do
    let high ← Text.hexValue? a
    let low ← Text.hexValue? b
    let code := high * 16 + low
    if flavor = .text ∧ 0x80 ≤ code then none
    else if flavor = .terminated ∧ code = 0 then none
    else some (Char.ofNat code, s)
  | _ => none

/-- The character of an escape after its backslash. -/
def escape? (flavor : StringFlavor) : List Char → Option (Char × List Char)
  | 'x' :: s => hexEscape? flavor s
  | 'n' :: s => some ('\n', s)
  | 'r' :: s => some ('\r', s)
  | 't' :: s => some ('\t', s)
  | '\\' :: s => some ('\\', s)
  | '\'' :: s => some ('\'', s)
  | '"' :: s => some ('"', s)
  | '0' :: s => if flavor = .terminated then none else some ('\x00', s)
  | 'u' :: '\x7b' :: s =>
    if flavor = .bytes then none
    else match unicodeDigits? 0 0 s with
      | some (c, rest) => if flavor = .terminated ∧ c = '\x00' then none else some (c, rest)
      | none => none
  | _ => none

/-- What follows a line break that a backslash hides, with the blanks at the start of the next
lines. A carriage return has to be followed by a line feed, and the text may not end here. -/
def continueLine? : List Char → Option (List Char)
  | '\r' :: '\n' :: s => continueLine? s
  | '\r' :: _ => none
  | '\n' :: s => continueLine? s
  | ' ' :: s => continueLine? s
  | '\t' :: s => continueLine? s
  | [] => none
  | s => some s

/-! ## Strings -/

/-- Whether a string may hold the character as it is. -/
def StringFlavor.admits (flavor : StringFlavor) (c : Char) : Bool :=
  match flavor with
  | .text => true
  | .bytes => c.toNat < 0x80
  | .terminated => c ≠ '\x00'

/-- The value of a string after its opening quote, and what follows the closing one. -/
def stringValue? (flavor : StringFlavor) : Nat → List Char → Option (List Char × List Char)
  | 0, _ => none
  | _ + 1, [] => none
  | fuel + 1, c :: s =>
    if c = '"' then some ([], s)
    else if c = '\r' then
      match s with
      | '\n' :: rest => (stringValue? flavor fuel rest).map fun (v, r) => ('\n' :: v, r)
      | _ => none
    else if c = '\\' then
      match s with
      | '\n' :: _ | '\r' :: _ =>
        match continueLine? s with
        | some rest => stringValue? flavor fuel rest
        | none => none
      | _ =>
        match escape? flavor s with
        | some (x, rest) => (stringValue? flavor fuel rest).map fun (v, r) => (x :: v, r)
        | none => none
    else if flavor.admits c then (stringValue? flavor fuel s).map fun (v, r) => (c :: v, r)
    else none

/-- The characters of a raw string up to a quote and the number signs `close`, and what follows
them. A carriage return has to be followed by a line feed. -/
def rawValue? (flavor : StringFlavor) (close : List Char) :
    List Char → Option (List Char × List Char)
  | [] => none
  | c :: s =>
    match (if c = '"' then Text.stripStart? close s else none) with
    | some rest => some ([], rest)
    | none =>
      if c = '\r' ∧ s.head? ≠ some '\n' then none
      else if flavor.admits c then (rawValue? flavor close s).map fun (v, r) => (c :: v, r)
      else none

/-- A string after the letters that tell its flavor. -/
def quotedString? (flavor : StringFlavor) (s : List Char) : Option (List Char × List Char) :=
  match s with
  | '"' :: rest => stringValue? flavor (rest.length + 1) rest
  | _ => none

/-- A raw string after the letters that tell its flavor. It may have up to 255 number signs. -/
def rawString? (flavor : StringFlavor) (s : List Char) : Option (List Char × List Char) :=
  let signs := s.takeWhile (· == '#')
  match s.drop signs.length with
  | '"' :: rest => if signs.length ≤ 255 then rawValue? flavor signs rest else none
  | _ => none

/-- A string of any flavor at the start of a text. -/
def stringLiteral? (s : List Char) : Option (LiteralKind × List Char) :=
  let text (r : Option (List Char × List Char)) := r.map fun (v, rest) =>
    (LiteralKind.string v, skipSuffix rest)
  let other (r : Option (List Char × List Char)) := r.map fun (_, rest) =>
    (LiteralKind.other, skipSuffix rest)
  match s with
  | '"' :: _ => text (quotedString? .text s)
  | 'r' :: rest => text (rawString? .text rest)
  | 'b' :: 'r' :: rest => other (rawString? .bytes rest)
  | 'b' :: rest => other (quotedString? .bytes rest)
  | 'c' :: 'r' :: rest => other (rawString? .terminated rest)
  | 'c' :: rest => other (quotedString? .terminated rest)
  | _ => none

/-! ## Characters -/

/-- A character or a byte after its opening quote. -/
def quotedChar? (flavor : StringFlavor) (s : List Char) : Option (LiteralKind × List Char) := do
  let rest ← match s with
    | '\\' :: rest => (escape? flavor rest).map Prod.snd
    | c :: rest => if flavor.admits c then some rest else none
    | [] => none
  match rest with
  | '\'' :: rest => some (.other, skipSuffix rest)
  | _ => none

/-- A character or a byte at the start of a text. -/
def charLiteral? : List Char → Option (LiteralKind × List Char)
  | '\'' :: s => quotedChar? .text s
  | 'b' :: '\'' :: s => quotedChar? .bytes s
  | _ => none

/-! ## Numbers -/

/-- A digit or an underscore. -/
def isDigitOrLine (c : Char) : Bool := c.isDigit || c == '_'

/-- What follows a literal, which no identifier character may. -/
def wordEnd? (s : List Char) : Option (List Char) :=
  if s.head?.any Text.isIdentifierContinue then none else some s

/-- What follows the exponent after its letter: a sign, and at least one digit. -/
def exponentEnd? (s : List Char) : Option (List Char) :=
  let lines (s : List Char) := s.dropWhile (· == '_')
  let afterSign := match lines s with
    | '+' :: rest | '-' :: rest => lines rest
    | rest => rest
  match afterSign with
  | c :: _ => if c.isDigit then some (afterSign.dropWhile isDigitOrLine) else none
  | [] => none

/-- What follows the digits of a number with a point or an exponent. Where the exponent has no
digits the number ends before it, which takes a point. -/
def floatEnd? (s : List Char) : Option (List Char) :=
  match s with
  | [] => none
  | c :: _ =>
    if !c.isDigit then none
    else
      match s.dropWhile isDigitOrLine with
      | '.' :: rest =>
        if rest.head?.any fun c => c == '.' || Text.isIdentifierStart c then none
        else
          let rest := rest.dropWhile isDigitOrLine
          match rest with
          | 'e' :: e | 'E' :: e => some ((exponentEnd? e).getD rest)
          | _ => some rest
      | 'e' :: e | 'E' :: e => exponentEnd? e
      | _ => none

/-- The number at the start of a text, if it has a point or an exponent. -/
def floatLiteral? (s : List Char) : Option (LiteralKind × List Char) := do
  let rest ← floatEnd? s
  let rest ← wordEnd? (skipSuffix rest)
  some (.float, rest)

/-- The base of a whole number, and the text after the letters that tell it. -/
def numberBase : List Char → Nat × List Char
  | '0' :: 'x' :: s => (16, s)
  | '0' :: 'o' :: s => (8, s)
  | '0' :: 'b' :: s => (2, s)
  | s => (10, s)

/-- What follows the digits of a number in a base; `empty` tells that there was none so far. A
decimal digit above the base is wrong, while a letter ends the digits. -/
def digitsEnd? (base : Nat) (empty : Bool) : List Char → Option (List Char)
  | [] => if empty then none else some []
  | c :: s =>
    if c = '_' then
      if empty ∧ base = 10 then none else digitsEnd? base empty s
    else match Text.hexValue? c with
      | some digit =>
        if digit < base then digitsEnd? base false s
        else if c.isDigit then none
        else if empty then none else some (c :: s)
      | none => if empty then none else some (c :: s)

/-- The whole number at the start of a text. -/
def integerLiteral? (s : List Char) : Option (LiteralKind × List Char) := do
  let (base, digits) := numberBase s
  let rest ← digitsEnd? base true digits
  let rest ← wordEnd? (skipSuffix rest)
  some (.integer, rest)

/-- The literal at the start of a text, and what follows it. -/
def literal? (s : List Char) : Option (LiteralKind × List Char) :=
  stringLiteral? s <|> charLiteral? s <|> floatLiteral? s <|> integerLiteral? s

end TransportGen.Source
