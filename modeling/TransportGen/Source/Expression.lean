import TransportGen.Source.Pattern

/-!
# Expressions and statements

The grammar of the bodies of functions and of constant values. Nothing of them is kept, so a parser
here only decides whether the tokens form an expression, and how it may go on: a range is no operand,
comparisons do not chain, and a statement that ends with a block needs no semicolon.
-/

namespace TransportGen.Source

variable (g : Grammar)

/-! ## How tightly operators bind -/

/-- How tightly an operator binds. -/
abbrev Strength := Nat

namespace Strength

/-- No operator. -/
def none : Strength := 0

/-- Assignments. -/
def assign : Strength := 1

/-- Ranges. -/
def range : Strength := 2

/-- The alternative of two conditions. -/
def or : Strength := 3

/-- Two conditions at once. -/
def and : Strength := 4

/-- Comparisons, and the value of a `let` condition. -/
def compare : Strength := 5

/-- Conversions of a type. -/
def cast : Strength := 12

end Strength

/-- The operators between two operands, with how tightly they bind. Of two of which one begins with
the other the longer stands first. -/
def binaryOperators : List (String × Strength) :=
  ["+=", "-=", "*=", "/=", "%=", "^=", "&=", "|=", "<<=", ">>="].map (·, Strength.assign) ++
    [("&&", Strength.and), ("||", Strength.or), ("<<", 9), (">>", 9)] ++
    ["==", "<=", "!=", ">="].map (·, Strength.compare) ++
    [("+", 10), ("-", 10), ("*", 11), ("/", 11), ("%", 11), ("^", 7), ("&", 8), ("|", 6)] ++
    ["<", ">"].map (·, Strength.compare)

/-- The operator that comes. -/
def binaryOperator? (tokens : List TokenTree) : Option (String × Strength) :=
  binaryOperators.find? fun (op, _) => Ahead.op op tokens

/-- The equals sign of an assignment comes. -/
def startsAssignment : Ahead := fun tokens => Ahead.op "=" tokens && !Ahead.op "=>" tokens

/-- How tightly what comes binds. -/
def upcoming (tokens : List TokenTree) : Strength :=
  match binaryOperator? tokens with
  | some (_, strength) => strength
  | none =>
    if startsAssignment tokens then Strength.assign
    else if Ahead.op ".." tokens then Strength.range
    else if Ahead.word "as" tokens then Strength.cast
    else Strength.none

/-! ## What expressions are made of -/

/-- A pattern with alternatives, of which nothing is kept. -/
def anyPattern : Parse Unit := discard (alternatives g)

/-- An expression that no struct ends, as before the block of a condition. -/
def condition : Parse Unit := discard (g.expr false)

/-- Expressions in parentheses, as of a call. -/
def callArguments : Parse Unit := discard (inGroup .paren (commaList (expression g)))

/-- A single point comes. -/
def singlePoint : Ahead := fun tokens => Ahead.op "." tokens && !Ahead.op ".." tokens

/-- An expression may begin here. -/
def startsExpression : Ahead := fun tokens =>
  let alone (op : String) (others : List String) := Ahead.op op tokens && !Ahead.ops others tokens
  Ahead.anyWord tokens && !Ahead.word "as" tokens || Ahead.group .paren tokens ||
    Ahead.group .square tokens || Ahead.group .brace tokens || Ahead.literal tokens ||
    alone "!" ["!="] || alone "-" ["-=", "->"] || alone "*" ["*="] || alone "|" ["|="] ||
    alone "&" ["&="] || Ahead.op ".." tokens || alone "<" ["<=", "<<="] ||
    Ahead.op "::" tokens || Ahead.lifetime tokens || Ahead.op "#" tokens

/-- An expression if one may begin here. -/
def optionalExpression : Parse Unit := do
  if ← next startsExpression then expression g

/-- A parameter of a closure. -/
def closureParam : Parse Unit := do
  discard (outerAttributes g)
  discard g.pattern
  if ← tryOp ":" then discard (g.type true)

/-- A closure. -/
def closure (allowStruct : Bool) : Parse Unit := do
  if ← next (.word "for") then binder g
  discard (tryWord "const")
  discard (tryWord "static")
  discard (tryWord "async")
  discard (tryWord "move")
  takeOp "|"
  discard (listUntil (.op "|") "," (closureParam g))
  takeOp "|"
  if ← tryOp "->" then
    discard (g.type true)
    block g
  else discard (g.expr allowStruct)

/-- A field of a struct and its value. -/
def fieldValue : Parse Unit := do
  discard (outerAttributes g)
  let isNamed ← takeMember
  if !isNamed || (← next (.op ":")) then
    takeOp ":"
    expression g

/-- The fields of a struct, of which another struct may give the last. -/
def fieldValues : Nat → Parse Unit
  | 0 => failure
  | fuel + 1 => do
    if ← next .nothing then return
    if ← tryOp ".." then
      if !(← next .nothing) then expression g
    else
      fieldValue g
      if ← tryOp "," then fieldValues fuel

/-- A path, a macro call or a struct. -/
def pathExpression (allowStruct : Bool) : Parse ExprForm := do
  let (isQualified, _, segments) ← qualifiedPath g true
  if !isQualified && (← next (.op "!")) && !(← next (.op "!=")) && isModulePath segments then
    takeOp "!"
    pure (if (← takeGroup) == .brace then .bracedMacro else .other)
  else
    if allowStruct && (← next (.group .brace)) then
      inGroup .brace do fieldValues g ((← get).rest.length + 1)
    pure .other

/-- The inside of an array. -/
def arrayInside : Parse Unit := do
  if ← next .nothing then return
  expression g
  if ← tryOp ";" then expression g
  else if ← tryOp "," then discard (commaList (expression g))

/-- A condition with its blocks. -/
def ifExpression : Nat → Parse Unit
  | 0 => failure
  | fuel + 1 => do
    takeWord "if"
    condition g
    block g
    if ← tryWord "else" then
      if ← next (.word "if") then ifExpression fuel else block g

/-- A loop after its label. -/
def loopExpression : Parse Unit := do
  if ← tryWord "while" then condition g
  else if ← tryWord "for" then
    anyPattern g
    takeWord "in"
    condition g
  else takeWord "loop"
  discard (attributedBlock g)

/-- A loop or a block with a label. -/
def labeled : Parse Unit := do
  takeLifetime
  takeOp ":"
  if ← next (.group .brace) then discard (attributedBlock g)
  else loopExpression g

/-- Whether the words at the front begin a closure. -/
def startsClosure : Ahead := fun tokens =>
  Ahead.op "|" tokens || Ahead.words ["move", "static"] tokens ||
    Ahead.word "for" tokens && startsGenerics (tokens.drop 1) ||
    Ahead.word "const" tokens && !Ahead.group .brace (tokens.drop 1) ||
    Ahead.word "async" tokens &&
      (Ahead.op "|" (tokens.drop 1) || Ahead.word "move" (tokens.drop 1))

/-- Whether the words at the front begin a block that is computed later. -/
def startsAsync : Ahead := fun tokens =>
  Ahead.word "async" tokens && (Ahead.group .brace (tokens.drop 1) ||
    Ahead.word "move" (tokens.drop 1) && Ahead.group .brace (tokens.drop 2))

/-- An arm of a `match`. After a block the comma may be missing. -/
def matchArm : Parse Unit := do
  discard (outerAttributes g)
  anyPattern g
  if ← tryWord "if" then expression g
  takeOp "=>"
  let form ← g.bounded
  if form == .block || (← next .nothing) then discard (tryOp ",") else takeOp ","

/-- A `match` with its arms. -/
def matchExpression : Parse Unit := do
  takeWord "match"
  condition g
  inGroup .brace do
    discard (innerAttributes g)
    discard (manyToEnd (matchArm g))

/-- A word that leaves the block, and what it leaves with. -/
def jump (allowStruct : Bool) : Parse Unit := do
  if ← tryWord "break" then
    if ← next .lifetime then
      takeLifetime
      require !(← next (.op ":"))
    if (← next startsExpression) && (allowStruct || !(← next (.group .brace))) then
      discard (g.expr allowStruct)
  else if ← tryWord "continue" then tryLifetime
  else if ← tryWord "become" then expression g
  else
    if !(← tryWord "return") then takeWord "yield"
    optionalExpression g

/-! ## Operators -/

/-- The end of a range may be missing here. -/
def endsRange (allowStruct : Bool) : Ahead := fun tokens =>
  Ahead.nothing tokens || singlePoint tokens || !allowStruct && Ahead.group .brace tokens ||
    Ahead.ops [",", ";", "?", "=>", "=", "+", "/", "%", "^", ">", "<=", "!=", "-=", "*=", "&=",
      "|=", "<<="] tokens ||
    Ahead.word "as" tokens

/-- What must not follow a conversion directly. -/
def startsTrailer : Ahead :=
  .anyOf [singlePoint, .op "?", .group .square, .group .paren]

/-- Whether the number is made of positions of fields, as in `x.0.1`, and the last point stands at
its end. -/
def fieldPositions? (text : List Char) : Option Bool :=
  let endsWithPoint := text.getLast? == some '.'
  let body := if endsWithPoint then text.dropLast else text
  if ((String.ofList body).splitOn ".").all (isIndex ·.toList) then some endsWithPoint else none

/-- What stands after a point: a position, a name, or a call of a method. -/
def afterPoint : Parse Unit := do
  let positions ← match (← get).rest with
    | .literal .float text :: _ => do
      discard (takeIf .literal)
      match fieldPositions? text.toList with
      | some endsWithPoint => pure (some endsWithPoint)
      | none => failure
    | _ => pure none
  if positions == some false then return
  if ← tryWord "await" then return
  let isNamed ← takeMember
  let hasTypes := isNamed && (← next (.op "::"))
  if hasTypes then
    takeOp "::"
    discard (angleArguments g (← steps))
    require (← next (.group .paren))
  if isNamed && (← next (.group .paren)) then callArguments g

/-- What follows an operand directly: calls, fields, indexes and question marks. -/
def trailers : Nat → ExprForm → Parse ExprForm
  | 0, _ => failure
  | fuel + 1, form => do
    if ← next (.group .paren) then
      callArguments g
      trailers fuel .other
    else if (← next singlePoint) && form != .range then
      takeOp "."
      afterPoint g
      trailers fuel .other
    else if ← next (.group .square) then
      inGroup .square (expression g)
      trailers fuel .other
    else if (← next (.op "?")) && form != .range then
      takeOp "?"
      trailers fuel .other
    else pure form

/-- What follows an operand directly. -/
def trailed (form : ExprForm) : Parse ExprForm := do
  trailers g ((← get).rest.length + 1) form

mutual

/-- The operand after an operator, with all that binds tighter than the operator. -/
def rightSide (allowStruct : Bool) (strength : Strength) : Nat → Parse Unit
  | 0 => failure
  | fuel + 1 => do extended allowStruct strength fuel (← g.operand allowStruct)

/-- An operand with all that binds tighter than the operator before it. Assignments are read from
the right. -/
def extended (allowStruct : Bool) (strength : Strength) : Nat → ExprForm → Parse Unit
  | 0, _ => failure
  | fuel + 1, form => do
    let before := (← get).rest
    let next := upcoming before
    if next > strength || (next == strength && strength == Strength.assign) then
      let form ← continued allowStruct next fuel form
      if (← get).rest.length != before.length then
        extended allowStruct strength fuel form

/-- An expression that begins with an operand, with the operators that follow it as long as they
bind as tightly as `base`. -/
def continued (allowStruct : Bool) (base : Strength) : Nat → ExprForm → Parse ExprForm
  | 0, _ => failure
  | fuel + 1, form => do
    if form == .range then return form
    match binaryOperator? (← get).rest with
    | some (op, strength) =>
      if strength < base then return form
      let isComparison := strength == Strength.compare
      require !(isComparison && form == .comparison)
      takeOp op
      rightSide allowStruct strength fuel
      continued allowStruct base fuel (if isComparison then .comparison else .other)
    | none =>
      if base ≤ Strength.assign && (← next startsAssignment) then
        takeOp "="
        rightSide allowStruct Strength.assign fuel
        continued allowStruct base fuel .other
      else if base ≤ Strength.range && (← next (.op "..")) then
        let isClosed ← rangeDots
        if isClosed || !(← next (endsRange allowStruct)) then
          rightSide allowStruct Strength.range fuel
        pure .range
      else if ← tryWord "as" then
        discard (g.type false)
        require !(← next startsTrailer)
        continued allowStruct base fuel .other
      else pure form

end

/-- What follows an operand, as far as it binds as tightly as `base`. -/
def continuedFrom (allowStruct : Bool) (base : Strength) (form : ExprForm) : Parse ExprForm := do
  continued g allowStruct base (← steps) form

/-! ## Operands -/

/-- An expression that a block ends and that is a statement by itself. -/
def blockExpression : Parse Unit := do
  if ← next (.word "if") then ifExpression g ((← get).rest.length + 1)
  else if ← next (.words ["while", "for", "loop"]) then loopExpression g
  else if ← next (.word "match") then matchExpression g
  else if ← tryWord "try" then block g
  else if ← next .lifetime then labeled g
  else
    discard (tryWord "unsafe" <||> tryWord "const")
    discard (attributedBlock g)

/-- Whether an expression begins that a block ends and that is a statement by itself. -/
def startsBlock : Ahead := fun tokens =>
  Ahead.words ["if", "while", "loop", "match", "unsafe"] tokens || Ahead.lifetime tokens ||
    Ahead.group .brace tokens ||
    Ahead.words ["try", "const"] tokens && Ahead.group .brace (tokens.drop 1) ||
    Ahead.word "for" tokens && !startsGenerics (tokens.drop 1)

/-- The start of an operand, before what follows it directly. -/
def atom (allowStruct : Bool) : Parse ExprForm := do
  let other (p : Parse Unit) : Parse ExprForm := do
    p
    pure .other
  if ← next .literal then other takeLiteral
  else if ← next startsAsync then other do
    takeWord "async"
    discard (tryWord "move")
    block g
  else if ← next startsBlock then
    blockExpression g
    pure .block
  else if ← next startsClosure then other (closure g allowStruct)
  else if (← next (.word "builtin")) && (← second (.op "#")) then other do
    takeWord "builtin"
    takeOp "#"
    discard takeName
    require (← next (.group .paren))
    discard takeGroup
  else if ← next startsPath then pathExpression g allowStruct
  else if (← next (.word "try")) && (← second (.ops ["!", "::"])) then
    pathExpression g allowStruct
  else if ← next (.group .paren) then other do
    discard (inGroup .paren (commaList (expression g)))
  else if ← next (.words ["break", "continue", "return", "become", "yield"]) then
    other (jump g allowStruct)
  else if ← next (.group .square) then other (inGroup .square (arrayInside g))
  else if ← tryWord "let" then other do
    anyPattern g
    takeOp "="
    discard (continuedFrom g allowStruct Strength.compare (← g.operand allowStruct))
  else if ← next (.op "..") then
    let isClosed ← rangeDots
    if isClosed || !(← next (endsRange allowStruct)) then
      rightSide g allowStruct Strength.range (← steps)
    pure .range
  else other (takeWord "_")

/-- An operand. Attributes may stand before it, unless it is a range without a start. -/
def operandWithin (allowStruct : Bool) : Parse ExprForm := do
  let hasAttributes ← next (.op "#")
  discard (outerAttributes g)
  if ← tryOp "&" then
    let isRaw := (← next (.word "raw")) && (← second (.words ["mut", "const"]))
    if isRaw then
      takeWord "raw"
      discard takeAnyWord
    else discard (tryWord "mut")
    discard (g.operand allowStruct)
    pure .other
  else if ← next (.ops ["*", "!", "-"]) then
    discard (takeIf (.ops ["*", "!", "-"]))
    discard (g.operand allowStruct)
    pure .other
  else
    let form ← trailed g (← atom g allowStruct)
    require !(hasAttributes && form == .range)
    pure form

/-- An expression. -/
def exprWithin (allowStruct : Bool) : Parse ExprForm := do
  continuedFrom g allowStruct Strength.none (← operandWithin g allowStruct)

/-- An expression that is a statement or the body of an arm. One that a block ends goes on only with
a point or a question mark. -/
def boundedExpression : Parse ExprForm := do
  discard (outerAttributes g)
  if ← next startsBlock then
    blockExpression g
    if ← next (.anyOf [singlePoint, .op "?"]) then
      continuedFrom g true Strength.none (← trailed g .block)
    else pure .block
  else continuedFrom g true Strength.none (← operandWithin g true)

/-! ## Statements -/

/-- Whether an item begins and no expression. -/
def startsItem : Ahead := fun tokens =>
  let then? (p : Ahead) := p (tokens.drop 1)
  let third (p : Ahead) := p (tokens.drop 2)
  Ahead.words ["pub", "extern", "use", "fn", "mod", "type", "struct", "enum", "trait", "impl",
      "macro"] tokens ||
    Ahead.word "crate" tokens && !then? (.op "::") ||
    Ahead.word "static" tokens && (then? (.word "mut") || then? .name) ||
    Ahead.word "const" tokens && !(then? (.group .brace) || then? (.word "static") ||
      then? (.word "async") && !third (.words ["unsafe", "extern", "fn"]) ||
      then? (.word "move") || then? (.op "|")) ||
    Ahead.word "unsafe" tokens && !then? (.group .brace) ||
    Ahead.word "async" tokens && then? (.words ["unsafe", "extern", "fn"]) ||
    Ahead.word "union" tokens && then? .name ||
    Ahead.word "auto" tokens && then? (.word "trait") ||
    Ahead.word "default" tokens && then? (.words ["unsafe", "impl"])

/-- The macro call that begins here. -/
inductive MacroStart where
  /-- A macro that defines something of a name. -/
  | item
  /-- A call with braces. -/
  | braces
  | none

/-- Whether a statement begins with a macro call that is no expression. -/
def macroStart : Parse MacroStart := fun c =>
  match plainPath c with
  | some (_, after) =>
    let followed (count : Nat) (p : Ahead) := p (after.rest.drop count)
    if !followed 0 (.op "!") then some (.none, c)
    else if followed 1 (.anyOf [.name, .word "try"]) then some (.item, c)
    else if followed 1 (.group .brace) && !followed 2 (.anyOf [singlePoint, .op "?"]) then
      some (.braces, c)
    else some (.none, c)
  | none => some (.none, c)

/-- Whether the last token is a block in braces. -/
def endsWithBrace (tokens : List TokenTree) : Bool :=
  match tokens.getLast? with
  | some (.group .brace _) => true
  | _ => false

/-- A `let` statement. -/
def letStatement : Parse Unit := do
  takeWord "let"
  discard g.pattern
  if ← tryOp ":" then discard (g.type true)
  if ← tryOp "=" then
    let (_, tokens) ← capture (expression g)
    if ← pure !(endsWithBrace tokens) <&&> tryWord "else" then block g
  takeOp ";"

/-- A statement; tells whether another one may follow it. -/
def statement : Parse Bool := do
  let before ← get
  discard (outerAttributes g)
  let start ← macroStart
  match start with
  | .braces =>
    discard plainPath
    takeOp "!"
    discard takeGroup
    discard (tryOp ";")
    pure true
  | _ =>
    if ← next (.word "let") then
      letStatement g
      pure true
    else if (start matches .item) || (← next startsItem) then
      set before
      discard g.item
      pure true
    else
      let form ← boundedExpression g
      let isEnded ← tryOp ";"
      pure (isEnded || form == .block || form == .bracedMacro)

/-- The statements of a block; `mayGoOn` tells whether another one may follow. -/
def statementsFrom : Nat → Bool → Parse Unit
  | 0, _ => failure
  | fuel + 1, mayGoOn => do
    if ← tryOp ";" then statementsFrom fuel true
    else if !(← next .nothing) then
      require mayGoOn
      statementsFrom fuel (← statement g)

/-- The statements of a block. -/
def statementsWithin : Parse Unit := do statementsFrom g ((← get).rest.length + 1) true

end TransportGen.Source
