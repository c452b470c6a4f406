import TransportGen.Json.Value
import TransportGen.Text.Letter
import TransportGen.Text.Pattern

/-!
# Strings in YAML

A string is written plainly where it reads back as that string. Where it would read back as something
else, or has a character that means something at its place, it stands in single quotes; strings with
line feeds are literal blocks; and what neither can hold stands in double quotes with escapes.
-/

namespace TransportGen.Yaml

open Text (stripStart?)

/-! ## What a plain text reads back as -/

/-- Texts that read back as null. -/
def nullTexts : List String := ["", "null", "Null", "NULL", "~"]

/-- Texts that read back as a truth value. -/
def boolTexts : List String := ["true", "True", "TRUE", "false", "False", "FALSE"]

/-- Texts that read back as infinity or as no number. -/
def specialFloats : List String :=
  [".inf", ".Inf", ".INF", "+.inf", "+.Inf", "+.INF", "-.inf", "-.Inf", "-.INF", ".nan", ".NaN",
    ".NAN"]

/-- The value of a digit, also of one beyond nine. -/
def digitValue (c : Char) : Nat :=
  if c.isDigit then c.toNat - '0'.toNat
  else if c.isUpper then c.toNat - 'A'.toNat + 10
  else if c.isLower then c.toNat - 'a'.toNat + 10
  else 36

/-- Whether a text is a number in a base, at most `limit`. -/
def isInBase (base limit : Nat) (digits : List Char) : Bool :=
  !digits.isEmpty && digits.all (digitValue · < base) &&
    digits.foldl (fun n c => n * base + digitValue c) 0 ≤ limit

/-- Whether a text is a number in base sixteen, eight or two with the mark of its base. Numbers have
128 bits. -/
def isBasedInteger (s : List Char) : Bool :=
  let (limit, digits) := match s with
    | '-' :: rest => (1 <<< 127, rest)
    | '+' :: rest => ((1 <<< 128) - 1, rest)
    | _ => ((1 <<< 128) - 1, s)
  match digits with
  | '0' :: 'x' :: rest => isInBase 16 limit rest
  | '0' :: 'o' :: rest => isInBase 8 limit rest
  | '0' :: 'b' :: rest => isInBase 2 limit rest
  | _ => false

/-- A text without a sign. -/
def dropSign (s : List Char) : List Char :=
  match s with
  | '+' :: rest => rest
  | '-' :: rest => rest
  | _ => s

/-- The exponent that a text is. -/
def exponentOf? (s : List Char) : Option Int :=
  match s with
  | [] => some 0
  | c :: rest =>
    let digits := dropSign rest
    if (c = 'e' || c = 'E') && !digits.isEmpty && digits.all Char.isDigit then
      let value := Int.ofNat (digits.foldl (fun n d => n * 10 + digitValue d) 0)
      some (if rest.head? == some '-' then -value else value)
    else none

/-- The digits and the power of ten of a decimal number without a sign. -/
def decimalOf? (s : List Char) : Option (List Char × Int) :=
  let whole := s.takeWhile Char.isDigit
  let (fraction, rest) := match s.dropWhile Char.isDigit with
    | '.' :: rest => (rest.takeWhile Char.isDigit, rest.dropWhile Char.isDigit)
    | rest => ([], rest)
  if whole.isEmpty && fraction.isEmpty then none
  else (exponentOf? rest).map fun e => (whole ++ fraction, e - Int.ofNat fraction.length)

/-- Whether a decimal number is within the range of floating-point numbers. -/
def isInRange (digits : List Char) (power : Int) : Bool :=
  let significant := digits.dropWhile (· == '0')
  let places := Int.ofNat significant.length + power
  if significant.isEmpty || places < 300 then true
  else if 310 < places then false
  else
    let value := significant.foldl (fun n c => n * 10 + digitValue c) 0
    let (num, den) :=
      if 0 ≤ power then (value * tenTo power.toNat, 1) else (value, tenTo (-power).toNat)
    (Binary.ofRatio? num den).isSome

/-- Whether a text is digits with a leading zero, which some readers take for a number. -/
def hasLeadingZero (unsigned : List Char) : Bool :=
  unsigned.length != 1 && unsigned.head? == some '0' && unsigned.all Char.isDigit

/-- Whether a text reads back as a decimal number, in range or with leading zeros. -/
def isDecimal (s : List Char) : Bool :=
  let unsigned := dropSign s
  hasLeadingZero unsigned ||
    (decimalOf? unsigned).any fun (digits, power) => isInRange digits power

/-- Whether a plain text reads back as something else than a string. -/
def isAmbiguous (s : String) : Bool :=
  nullTexts.contains s || boolTexts.contains s || specialFloats.contains s ||
    isBasedInteger s.toList || isDecimal s.toList

/-! ## What stands in the way of a style -/

/-- A line break. -/
def isBreak (c : Char) : Bool :=
  c == '\n' || c == '\r' || c == '\x85' || c == '\u2028' || c == '\u2029'

/-- A character that may stand as itself. -/
def isPrintable (c : Char) : Bool :=
  let code := c.toNat
  c == '\n' || (0x20 ≤ code && code ≤ 0x7E) ||
    (0xA0 ≤ code && code != 0xFEFF && code != 0xFFFE && code != 0xFFFF)

/-- Whether the next character is white space or there is none. -/
def isBlankNext : Option Char → Bool
  | none => true
  | some c => c == ' ' || c == '\t' || c == '\x00' || isBreak c

/-- Characters that begin something else than a plain text. -/
def isOpening (c : Char) : Bool := "#,[]\x7b\x7d&*!|>'\"%@\x60".toList.contains c

/-- Whether a character inside a plain text ends it, given its neighbours. -/
def endsPlain (previous c : Char) (next : Option Char) : Bool :=
  (c == ':' && isBlankNext next) || (c == '#' && isBlankNext (some previous))

/-- Whether some character after the first ends a plain text. -/
def hasInnerMark (previous : Char) : List Char → Bool
  | [] => false
  | c :: s => endsPlain previous c s.head? || hasInnerMark c s

/-- Whether a text cannot be plain because of a character with a meaning. -/
def hasMark (s : List Char) : Bool :=
  (stripStart? ['-', '-', '-'] s).isSome || (stripStart? ['.', '.', '.'] s).isSome ||
    match s with
    | [] => false
    | c :: rest =>
      isOpening c || ((c == '?' || c == ':' || c == '-') && isBlankNext rest.head?) ||
        hasInnerMark c rest

/-- Whether a character that satisfies `p` stands right before one that satisfies `q`. -/
def hasPair (p q : Char → Bool) : List Char → Bool
  | a :: b :: s => (p a && q b) || hasPair p q (b :: s)
  | _ => false

/-- A space. -/
def isSpace (c : Char) : Bool := c == ' '

/-- Whether a space stands before a line break, or a character cannot stand as itself. -/
def needsEscapes (s : List Char) : Bool := hasPair isSpace isBreak s || s.any (! isPrintable ·)

/-- Whether an end of the text is a space or a line break. -/
def hasLooseEnd (s : List Char) : Bool :=
  let isLoose (c : Char) : Bool := isSpace c || isBreak c
  s.head?.any isLoose || s.getLast?.any isLoose

/-- How a string is written. -/
inductive Style where
  | plain
  | single
  | double
  | literal
  deriving DecidableEq, Repr

/-- The style of a string. -/
def styleOf (s : String) : Style :=
  let text := s.toList
  let single := !needsEscapes text && !hasPair isBreak isSpace text
  if text.contains '\n' then
    if needsEscapes text || text.getLast?.any isSpace then .double else .literal
  else if !isAmbiguous s && single && !hasMark text && !text.any isBreak && !hasLooseEnd text then
    .plain
  else if single then .single
  else .double

/-! ## Texts -/

/-- Spaces. -/
def spaces (n : Nat) : List Char := List.replicate n ' '

/-- The characters of a text between single quotes; `broken` says that a line break came before. -/
def singleChars (indent : Nat) (broken : Bool) : List Char → List Char
  | [] => if broken then spaces indent else []
  | c :: s =>
    if isBreak c then c :: singleChars indent true s
    else
      (if broken then spaces indent else []) ++ (if c = '\'' then ['\'', '\''] else [c]) ++
        singleChars indent false s

/-- A hexadecimal number in capitals with leading zeros up to a width. -/
def hexCapitals (width n : Nat) : List Char :=
  let digits := (Nat.toDigits 16 n).map Char.toUpper
  List.replicate (width - digits.length) '0' ++ digits

/-- The escapes with a letter of their own. -/
def letterEscapes : List (Char × Char) :=
  [('\x00', '0'), ('\x07', 'a'), ('\x08', 'b'), ('\t', 't'), ('\n', 'n'), ('\x0b', 'v'),
    ('\x0c', 'f'), ('\r', 'r'), ('\x1b', 'e'), ('"', '"'), ('\\', '\\'), ('\x85', 'N'),
    ('\xa0', '_'), ('\u2028', 'L'), ('\u2029', 'P')]

/-- What stands for a character between double quotes. -/
def doubleChar (c : Char) : List Char :=
  if isPrintable c && !isBreak c && c != '"' && c != '\\' then [c]
  else match letterEscapes.lookup c with
    | some letter => ['\\', letter]
    | none =>
      let code := c.toNat
      if code ≤ 0xFF then ['\\', 'x'] ++ hexCapitals 2 code
      else if code ≤ 0xFFFF then ['\\', 'u'] ++ hexCapitals 4 code
      else ['\\', 'U'] ++ hexCapitals 8 code

/-- The lines of a literal block; `broken` says that a line has just begun. -/
def literalChars (indent : Nat) (broken : Bool) : List Char → List Char
  | [] => []
  | c :: s =>
    if isBreak c then c :: literalChars indent true s
    else (if broken then spaces indent else []) ++ c :: literalChars indent false s

/-- The head of a literal block: the width of its margin where its first line does not show it, and
what becomes of the line breaks at its end. -/
def literalHead (s : List Char) : List Char :=
  let width := if s.head?.any (fun c => isSpace c || isBreak c) then ['2'] else []
  let ends := match s.reverse with
    | [] => ['-']
    | [c] => if isBreak c then ['+'] else ['-']
    | c :: d :: _ => if !isBreak c then ['-'] else if isBreak d then ['+'] else []
  '|' :: width ++ ends ++ ['\n']

/-- A string as text; further lines of it are `indent` spaces in. -/
def scalar (indent : Nat) (s : String) : List Char :=
  match styleOf s with
  | .plain => s.toList
  | .single => '\'' :: singleChars indent false s.toList ++ ['\'']
  | .double => '"' :: s.toList.flatMap doubleChar ++ ['"']
  | .literal => literalHead s.toList ++ literalChars indent true s.toList

end TransportGen.Yaml
