import TransportGen.Source.Token

/-!
# Parsing token trees

A parser reads tokens from the front of a list and writes down what it has read. What is written may
differ from what was read: a mark that was read alone is written alone, though the source joined it
to the next one. `capture` hands over what a parser writes.
-/

namespace TransportGen.Source

/-- The tokens still to be read, and those written down, last first. -/
structure Cursor where
  rest : List TokenTree
  done : List TokenTree

/-- A parser, which fails on tokens that have another form. -/
abbrev Parse (α : Type) := StateT Cursor Option α

/-! ## What comes next -/

/-- A question about the tokens to be read. -/
abbrev Ahead := List TokenTree → Bool

namespace Ahead

/-- No token comes. -/
def nothing : Ahead := List.isEmpty

/-- The marks of an operator come, each joined to the next one. -/
def marks : List Char → Ahead
  | [], _ => true
  | [c], .mark d _ :: _ => c == d
  | c :: op, .mark d joined :: rest => c == d && joined && marks op rest
  | _, _ => false

/-- An operator comes, or a longer one that begins with it. -/
def op (text : String) : Ahead := marks text.toList

/-- A certain word comes. -/
def word (text : String) : Ahead
  | .word t :: _ => t == text
  | _ => false

/-- Words that are no identifiers. -/
def keywords : List String :=
  ["_", "abstract", "as", "async", "await", "become", "box", "break", "const", "continue", "crate",
    "do", "dyn", "else", "enum", "extern", "false", "final", "fn", "for", "if", "impl", "in", "let",
    "loop", "macro", "match", "mod", "move", "mut", "override", "priv", "pub", "ref", "return",
    "Self", "self", "static", "struct", "super", "trait", "true", "try", "type", "typeof", "unsafe",
    "unsized", "use", "virtual", "where", "while", "yield"]

/-- An identifier comes. -/
def name : Ahead
  | .word t :: _ => !keywords.contains t
  | _ => false

/-- An identifier or keyword comes. -/
def anyWord : Ahead
  | .word _ :: _ => true
  | _ => false

/-- A lifetime comes. -/
def lifetime : Ahead
  | .lifetime _ :: _ => true
  | _ => false

/-- A group comes. -/
def group (bracket : Bracket) : Ahead
  | .group b _ :: _ => b == bracket
  | _ => false

/-- A string comes. -/
def string : Ahead
  | .literal (.string _) _ :: _ => true
  | _ => false

/-- A literal comes: a truth value, a negative number, or any literal token. -/
def literal : Ahead
  | .literal .. :: _ => true
  | .word t :: _ => t == "true" || t == "false"
  | .mark '-' _ :: .literal .integer _ :: _ => true
  | .mark '-' _ :: .literal .float _ :: _ => true
  | _ => false

/-- One of several holds. -/
def anyOf (options : List Ahead) : Ahead := fun tokens => options.any fun p => p tokens

/-- One of some words comes. -/
def words (texts : List String) : Ahead := anyOf (texts.map word)

/-- One of some operators comes. -/
def ops (texts : List String) : Ahead := anyOf (texts.map op)

end Ahead

/-- Asks about the tokens to be read. -/
def next (p : Ahead) : Parse Bool := do pure (p (← get).rest)

/-- Asks about the tokens after the first. -/
def second (p : Ahead) : Parse Bool := do pure (p ((← get).rest.drop 1))

/-- Asks about the tokens after the second. -/
def third (p : Ahead) : Parse Bool := do pure (p ((← get).rest.drop 2))

/-- Whether a parser would succeed here. -/
def succeeds {α : Type} (p : Parse α) : Parse Bool := fun c => some ((p c).isSome, c)

/-- Fails unless the condition holds. -/
def require (condition : Bool) : Parse Unit := if condition then pure () else failure

/-! ## Taking tokens -/

/-- Drops tokens without writing them. -/
def drop (count : Nat) : Parse Unit := modify fun c => { c with rest := c.rest.drop count }

/-- Writes tokens. -/
def write (tokens : List TokenTree) : Parse Unit :=
  modify fun c => { c with done := tokens.reverse ++ c.done }

/-- Takes a token that passes a test, and writes it as it is. -/
def takeIf (p : Ahead) : Parse TokenTree := do
  let c ← get
  match c.rest with
  | token :: rest =>
    require (p c.rest)
    set (⟨rest, token :: c.done⟩ : Cursor)
    pure token
  | [] => failure

/-- The marks of an operator. -/
def operatorMarks : List Char → List TokenTree
  | [] => []
  | [c] => [.mark c false]
  | c :: op => .mark c true :: operatorMarks op

/-- Takes an operator. -/
def takeOp (text : String) : Parse Unit := do
  require (← next (.op text))
  drop text.length
  write (operatorMarks text.toList)

/-- Takes an operator that is not written. -/
def skipOp (text : String) : Parse Unit := do
  require (← next (.op text))
  drop text.length

/-- Takes an operator if it comes. -/
def tryOp (text : String) : Parse Bool := do
  if ← next (.op text) then
    takeOp text
    pure true
  else pure false

/-- Takes a certain word. -/
def takeWord (text : String) : Parse Unit := discard (takeIf (.word text))

/-- Takes a certain word if it comes. -/
def tryWord (text : String) : Parse Bool := do
  if ← next (.word text) then
    takeWord text
    pure true
  else pure false

/-- The text of a word. -/
def wordText : TokenTree → String
  | .word text => text
  | _ => ""

/-- Takes an identifier. -/
def takeName : Parse String := do pure (wordText (← takeIf .name))

/-- Takes an identifier or a keyword. -/
def takeAnyWord : Parse String := do pure (wordText (← takeIf .anyWord))

/-- Takes a lifetime. -/
def takeLifetime : Parse Unit := discard (takeIf .lifetime)

/-- Takes a lifetime if it comes. -/
def tryLifetime : Parse Unit := do if ← next .lifetime then takeLifetime

/-- Takes a literal. The sign of a negative number is a mark of its own. -/
def takeLiteral : Parse Unit := do
  require (← next .literal)
  if ← next (.op "-") then takeOp "-"
  discard (takeIf .literal)

/-- Takes a group whose tokens a parser reads to the end. -/
def inGroup {α : Type} (bracket : Bracket) (p : Parse α) : Parse α := do
  let c ← get
  match c.rest with
  | .group b tokens :: rest =>
    require (b == bracket)
    match p ⟨tokens, []⟩ with
    | some (a, inner) =>
      require inner.rest.isEmpty
      set (⟨rest, .group b inner.done.reverse :: c.done⟩ : Cursor)
      pure a
    | none => failure
  | _ => failure

/-- Takes any group as it is. -/
def takeGroup : Parse Bracket := do
  let c ← get
  match c.rest with
  | .group bracket tokens :: rest =>
    set (⟨rest, .group bracket tokens :: c.done⟩ : Cursor)
    pure bracket
  | _ => failure

/-! ## Combinators -/

/-- Hands over what a parser writes, and writes it. -/
def capture {α : Type} (p : Parse α) : Parse (α × List TokenTree) := do
  let before := (← get).done
  modify fun c => { c with done := [] }
  let a ← p
  let written := (← get).done
  modify fun c => { c with done := written ++ before }
  pure (a, written.reverse)

/-- Writes the tokens that were read since an earlier cursor as the source has them. -/
def rewriteSince (before : Cursor) : Parse Unit := modify fun c =>
  let read := before.rest.take (before.rest.length - c.rest.length)
  ⟨c.rest, read.reverse ++ before.done⟩

/-- Writes what a parser reads as the source has it. -/
def verbatim {α : Type} (p : Parse α) : Parse α := do
  let before ← get
  let a ← p
  rewriteSince before
  pure a

/-- Items up to a stop, each but the last followed by a separator. -/
def itemsUntil {α : Type} (stop : Ahead) (separator : String) (item : Parse α) :
    Nat → Parse (List α)
  | 0 => failure
  | fuel + 1 => do
    if ← next stop then return []
    let a ← item
    if ← next stop then return [a]
    takeOp separator
    pure (a :: (← itemsUntil stop separator item fuel))

/-- Items up to a stop, with separators between them and perhaps after the last. Every item reads at
least one token. -/
def listUntil {α : Type} (stop : Ahead) (separator : String) (item : Parse α) :
    Parse (List α) := do
  itemsUntil stop separator item ((← get).rest.length + 1)

/-- Items separated by commas up to the end of a group. -/
def commaList {α : Type} (item : Parse α) : Parse (List α) := listUntil .nothing "," item

/-- Items that go on while a separator follows and no stop. -/
def itemsWhile {α : Type} (stop : Ahead) (separator : String) (item : Parse α) :
    Nat → Parse (List α)
  | 0 => failure
  | fuel + 1 => do
    if ← next stop then return []
    let a ← item
    if ← tryOp separator then pure (a :: (← itemsWhile stop separator item fuel))
    else pure [a]

/-- Items with separators between them and perhaps after the last, ended by a stop or by the lack of
a separator. -/
def listWhile {α : Type} (stop : Ahead) (separator : String) (item : Parse α) :
    Parse (List α) := do
  itemsWhile stop separator item ((← get).rest.length + 1)

/-- Items up to a stop, with nothing between them, by at most `fuel` steps. -/
def repeatUntil {α : Type} (stop : Ahead) (item : Parse α) : Nat → Parse (List α)
  | 0 => failure
  | fuel + 1 => do
    if ← next stop then return []
    let a ← item
    pure (a :: (← repeatUntil stop item fuel))

/-- Items to the end of a group. -/
def manyToEnd {α : Type} (item : Parse α) : Parse (List α) := do
  repeatUntil .nothing item ((← get).rest.length + 1)

end TransportGen.Source
