/-!
# Token trees

The words, marks and literals of a source text, with everything between two matching brackets held
as one group. A mark is a single character; an operator of several characters is several marks, each
joined to the next one.

`tokensText` writes tokens out with one space between any two of them, except after a joined mark.
-/

namespace TransportGen.Source

/-- A pair of brackets. -/
inductive Bracket where
  | paren
  | square
  | brace
  deriving DecidableEq, Repr

namespace Bracket

/-- The opening bracket. -/
def opening : Bracket → Char
  | paren => '('
  | square => '['
  | brace => '\x7b'

/-- The closing bracket. -/
def closing : Bracket → Char
  | paren => ')'
  | square => ']'
  | brace => '\x7d'

/-- Every pair of brackets. -/
def all : List Bracket := [paren, square, brace]

end Bracket

/-- What a literal is. -/
inductive LiteralKind where
  /-- A string, with the text it stands for. -/
  | string (value : List Char)
  /-- A whole number. -/
  | integer
  /-- A number with a point or an exponent. -/
  | float
  /-- A character, a byte, or a string of bytes. -/
  | other
  deriving DecidableEq, Repr

/-- A token, or a group of tokens between brackets. -/
inductive TokenTree where
  /-- An identifier or a keyword. -/
  | word (text : String)
  /-- A punctuation character, and whether it is joined to the next one. -/
  | mark (char : Char) (joined : Bool)
  /-- A lifetime with its quote. -/
  | lifetime (text : String)
  | literal (kind : LiteralKind) (text : String)
  | group (bracket : Bracket) (tokens : List TokenTree)
  deriving Repr

mutual

/-- The number of tokens in a tree. -/
def treeSize : TokenTree → Nat
  | .group _ tokens => treesSize tokens + 1
  | _ => 1

/-- The number of tokens in trees. -/
def treesSize : List TokenTree → Nat
  | [] => 0
  | tree :: rest => treeSize tree + treesSize rest

end

mutual

/-- A token as text. Only braces have blanks inside. -/
def treeText : TokenTree → List Char
  | .word text => text.toList
  | .mark char _ => [char]
  | .lifetime text => text.toList
  | .literal _ text => text.toList
  | .group bracket tokens =>
    let inner := treesText false tokens
    match bracket with
    | .brace =>
      ['\x7b', ' '] ++ inner ++ (if tokens.isEmpty then [] else [' ']) ++ ['\x7d']
    | _ => bracket.opening :: inner ++ [bracket.closing]

/-- Tokens as text; `apart` says whether a blank comes first. -/
def treesText (apart : Bool) : List TokenTree → List Char
  | [] => []
  | tree :: rest =>
    let joined := match tree with
      | .mark _ joined => joined
      | _ => false
    (if apart then [' '] else []) ++ treeText tree ++ treesText (!joined) rest

end

/-- Tokens as text. -/
def tokensText (tokens : List TokenTree) : String := String.ofList (treesText false tokens)

end TransportGen.Source
