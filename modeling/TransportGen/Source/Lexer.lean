import TransportGen.Source.Literal
import TransportGen.Text.Blank
import TransportGen.Text.Quoted

/-!
# Reading token trees

A source text is cut into tokens from the left. Blanks and comments are passed over; a doc comment
is read as the attribute `#[doc = "…"]`, or `#![doc = "…"]` for an inner one, whose text is the
comment without its marks.
-/

namespace TransportGen.Source

/-! ## Comments -/

/-- Whether the character separates tokens. The marks of text direction do so too. -/
def isGap (c : Char) : Bool := Text.isBlank c || c == '\u200e' || c == '\u200f'

/-- A line up to its end, which may be the end of the text, and what follows. -/
def splitLine : List Char → List Char × List Char
  | [] => ([], [])
  | '\r' :: '\n' :: s => ([], '\n' :: s)
  | '\n' :: s => ([], '\n' :: s)
  | c :: s => let (line, rest) := splitLine s; (c :: line, rest)

/-- The inside of a block comment, of which `depth` ones are open, and what follows it. -/
def blockComment? (depth : Nat) : List Char → Option (List Char × List Char)
  | [] => none
  | '/' :: '*' :: s => (blockComment? (depth + 1) s).map fun (t, r) => ('/' :: '*' :: t, r)
  | '*' :: '/' :: s =>
    if depth = 0 then some ([], s)
    else (blockComment? (depth - 1) s).map fun (t, r) => ('*' :: '/' :: t, r)
  | c :: s => (blockComment? depth s).map fun (t, r) => (c :: t, r)

/-- What follows the comment at the start of a text, unless it is a doc comment. -/
def plainComment? : List Char → Option (List Char)
  | '/' :: '/' :: s =>
    match s with
    | '/' :: '/' :: _ => some (splitLine s).2
    | '/' :: _ | '!' :: _ => none
    | _ => some (splitLine s).2
  | '/' :: '*' :: s =>
    match s with
    | '*' :: '/' :: rest => some rest
    | '*' :: '*' :: _ => (blockComment? 0 s).map Prod.snd
    | '*' :: _ | '!' :: _ => none
    | _ => (blockComment? 0 s).map Prod.snd
  | _ => none

/-- The text after blanks and plain comments. -/
def skipGaps : Nat → List Char → List Char
  | 0, s => s
  | fuel + 1, s =>
    match plainComment? s with
    | some rest => skipGaps fuel rest
    | none =>
      match s with
      | c :: rest => if isGap c then skipGaps fuel rest else s
      | [] => []

/-- A doc comment: its text and whether it is an inner one. -/
def docComment? (s : List Char) : Option ((List Char × Bool) × List Char) :=
  match s with
  | '/' :: '/' :: '!' :: s => let (line, rest) := splitLine s; some ((line, true), rest)
  | '/' :: '/' :: '/' :: s =>
    if s.head? = some '/' then none
    else let (line, rest) := splitLine s; some ((line, false), rest)
  | '/' :: '*' :: '!' :: s => (blockComment? 0 s).map fun (text, rest) => ((text, true), rest)
  | '/' :: '*' :: '*' :: s =>
    if s.head? = some '*' then none
    else (blockComment? 0 s).map fun (text, rest) => ((text, false), rest)
  | _ => none

/-- Whether every carriage return is followed by a line feed. -/
def hasPairedReturns : List Char → Bool
  | [] => true
  | '\r' :: s => s.head? == some '\n' && hasPairedReturns s
  | _ :: s => hasPairedReturns s

/-- The attribute that a doc comment stands for. -/
def docAttribute (text : List Char) (isInner : Bool) : List TokenTree :=
  [.mark '#' false] ++ (if isInner then [.mark '!' false] else []) ++
    [.group .square [.word "doc", .mark '=' false,
      .literal (.string text) (Text.quote (String.ofList text))]]

/-! ## Marks and words -/

/-- Characters that may be marks. -/
def markChars : List Char := "~!@#$%^&*-=+|;:,<.>/?'".toList

/-- Whether a mark begins a text. The slash of a comment is none. -/
def startsMark : List Char → Bool
  | '/' :: '/' :: _ | '/' :: '*' :: _ => false
  | c :: _ => markChars.contains c
  | [] => false

/-- An identifier without a raw mark. -/
def plainWord? : List Char → Option (List Char × List Char)
  | [] => none
  | c :: s =>
    if Text.isIdentifierStart c then
      let tail := s.takeWhile Text.isIdentifierContinue
      some (c :: tail, s.drop tail.length)
    else none

/-- Words that cannot be raw identifiers. -/
def neverRaw : List String := ["_", "super", "self", "Self", "crate"]

/-- An identifier or keyword; a raw identifier keeps its mark. -/
def word? : List Char → Option (List Char × List Char)
  | 'r' :: '#' :: s => do
    let (word, rest) ← plainWord? s
    if neverRaw.contains (String.ofList word) then none else some ('r' :: '#' :: word, rest)
  | s => plainWord? s

/-- Beginnings of literals, which no identifier has. -/
def literalStarts : List (List Char) :=
  ["r\"", "r#\"", "r##", "b\"", "b'", "br\"", "br#", "c\"", "cr\"", "cr#"].map String.toList

/-- A lifetime after its quote. -/
def lifetime? (s : List Char) : Option (TokenTree × List Char) := do
  let (word, rest) ← word? s
  let isRaw := "r#".toList.isPrefixOf s
  match rest with
  | '\'' :: _ => none
  | '#' :: _ => if isRaw then some (.lifetime (String.ofList ('\'' :: word)), rest) else none
  | _ => some (.lifetime (String.ofList ('\'' :: word)), rest)

/-- A mark or a lifetime. -/
def mark? : List Char → Option (TokenTree × List Char)
  | '\'' :: s => lifetime? s
  | c :: s => if startsMark (c :: s) then some (.mark c (startsMark s), s) else none
  | [] => none

/-- An identifier or keyword that begins no literal. -/
def identifier? (s : List Char) : Option (TokenTree × List Char) :=
  if literalStarts.any (·.isPrefixOf s) then none
  else (word? s).map fun (word, rest) => (.word (String.ofList word), rest)

/-- A literal with its text. -/
def literalToken? (s : List Char) : Option (TokenTree × List Char) :=
  (literal? s).map fun (kind, rest) =>
    (.literal kind (String.ofList (s.take (s.length - rest.length))), rest)

/-- A token that is no group. -/
def leaf? (s : List Char) : Option (TokenTree × List Char) :=
  literalToken? s <|> mark? s <|> identifier? s

/-! ## Groups -/

/-- Tokens that are read: those of the innermost open group, last first, and for every open group
its bracket and the tokens before it. -/
structure Opened where
  current : List TokenTree
  outer : List (Bracket × List TokenTree)

namespace Opened

/-- With one more token. -/
def push (o : Opened) (token : TokenTree) : Opened := { o with current := token :: o.current }

/-- With further tokens. -/
def pushAll (o : Opened) (tokens : List TokenTree) : Opened :=
  { o with current := tokens.reverse ++ o.current }

/-- With a group opened. -/
def openGroup (o : Opened) (bracket : Bracket) : Opened := ⟨[], (bracket, o.current) :: o.outer⟩

/-- With the innermost group closed, if it has this bracket. -/
def closeGroup? (o : Opened) (bracket : Bracket) : Option Opened :=
  match o.outer with
  | (opening, before) :: outer =>
    if opening = bracket then some ⟨.group bracket o.current.reverse :: before, outer⟩ else none
  | [] => none

/-- All tokens, if no group is open. -/
def finish? (o : Opened) : Option (List TokenTree) :=
  if o.outer.isEmpty then some o.current.reverse else none

end Opened

/-- What a text starts with: its tokens with those before them, and the text that follows. -/
def advance? (o : Opened) (s : List Char) : Option (Opened × List Char) :=
  match docComment? s with
  | some ((text, isInner), rest) =>
    if hasPairedReturns text then some (o.pushAll (docAttribute text isInner), rest) else none
  | none =>
    match s with
    | [] => none
    | c :: rest =>
      match Bracket.all.find? (·.opening == c), Bracket.all.find? (·.closing == c) with
      | some bracket, _ => some (o.openGroup bracket, rest)
      | none, some bracket => (o.closeGroup? bracket).map (·, rest)
      | none, none => (leaf? s).map fun (token, rest) => (o.push token, rest)

/-- The tokens of a text after others. Every step takes at least one character, and so `fuel` stays
above the length of the text. -/
def treesFrom? : Nat → Opened → List Char → Option (List TokenTree)
  | 0, _, _ => none
  | fuel + 1, o, s =>
    match skipGaps (fuel + 1) s with
    | [] => o.finish?
    | s =>
      match advance? o s with
      | some (o, rest) => treesFrom? fuel o rest
      | none => none

/-- The token trees of a text. -/
def trees? (s : List Char) : Option (List TokenTree) := treesFrom? (s.length + 1) ⟨[], []⟩ s

/-- A text without the byte order mark at its start. -/
def dropOrderMark : List Char → List Char
  | '\uFEFF' :: s => s
  | s => s

/-- A text without a first line that names its interpreter. -/
def dropInterpreter (s : List Char) : List Char :=
  match s with
  | '#' :: '!' :: rest =>
    if (skipGaps (rest.length + 1) rest).head? = some '[' then s else s.dropWhile (· != '\n')
  | _ => s

/-- The token trees of a source file. -/
def fileTrees? (text : String) : Option (List TokenTree) :=
  trees? (dropOrderMark (dropInterpreter (dropOrderMark text.toList)))

end TransportGen.Source
