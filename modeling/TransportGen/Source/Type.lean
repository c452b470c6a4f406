import TransportGen.Source.Grammar

/-!
# Paths, types and generics

The grammar of types, and of the attributes, bounds and generic parameters around them.
-/

namespace TransportGen.Source

variable (g : Grammar)

/-! ## Attributes and visibility -/

/-- Takes an expression. -/
def expression : Parse Unit := discard (g.expr true)

/-- A path of words without arguments. -/
def plainPath : Parse (List String) := do
  let isGlobal ← tryOp "::"
  let segment : Parse String := do
    require (← next (.anyOf [.name, .words ["super", "self", "Self", "crate"]]))
    takeAnyWord
  let rec more : Nat → Parse (List String)
    | 0 => failure
    | fuel + 1 => do
      let word ← segment
      if ← tryOp "::" then pure (word :: (← more fuel)) else pure [word]
  let words ← more ((← get).rest.length + 1)
  pure (if isGlobal then "" :: words else words)

/-- The value of a string literal that ends the tokens. -/
def lastString? : List TokenTree → Option (List Char)
  | [.literal (.string value) _] => some value
  | _ => none

/-- The value of an attribute that is a doc text. -/
def attributeBody : Parse (Option (List Char)) := do
  let path ← if ← tryWord "unsafe" then pure ["unsafe"] else plainPath
  if ← next (.anyOf [.group .paren, .group .square, .group .brace]) then
    discard takeGroup
    pure none
  else if ← tryOp "=" then
    let value := lastString? (← get).rest
    require !((← next (.op "#")) && (← second (.group .square)))
    expression g
    pure (if path == ["doc"] then value else none)
  else pure none

/-- Attributes before an item; the texts of doc attributes are kept. -/
def outerAttributes : Parse (List (List Char)) := do
  let one : Parse (Option (List Char)) := do
    takeOp "#"
    inGroup .square (attributeBody g)
  pure ((← repeatUntil (fun tokens => !Ahead.op "#" tokens) one
    ((← get).rest.length + 1)).filterMap id)

/-- Attributes inside an item; the texts of doc attributes are kept. -/
def innerAttributes : Parse (List (List Char)) := do
  let one : Parse (Option (List Char)) := do
    takeOp "#"
    takeOp "!"
    inGroup .square (attributeBody g)
  let isInner : Ahead := fun tokens => Ahead.op "#" tokens && Ahead.op "!" (tokens.drop 1)
  pure ((← repeatUntil (fun tokens => !isInner tokens) one
    ((← get).rest.length + 1)).filterMap id)

/-- The restriction in the parentheses after `pub`. -/
def restriction : Parse Unit := do
  if ← next (.words ["crate", "self", "super"]) then discard takeAnyWord
  else
    takeWord "in"
    discard plainPath

/-- A visibility; tells whether one is given. Parentheses that hold no restriction belong to what
follows. -/
def visibility : Parse Bool := do
  if ← tryWord "pub" then
    if ← next (.group .paren) then
      if ← succeeds (inGroup .paren restriction) then inGroup .paren restriction
    pure true
  else pure false

/-! ## Paths -/

/-- The tokens of an argument between angle brackets, and what it is. -/
inductive Argument where
  | lifetime
  | type (type : TypeTree)
  | other

/-- A block, which may begin with attributes; the texts of doc attributes are kept. -/
def attributedBlock : Parse (List (List Char)) := inGroup .brace do
  let docs ← innerAttributes g
  g.statements
  pure docs

/-- A block without attributes. -/
def block : Parse Unit := inGroup .brace g.statements

/-- A constant between angle brackets: a literal, a name or a block. -/
def constArgument : Parse Unit := do
  if ← next .literal then takeLiteral
  else if ← next .name then discard takeName
  else discard (attributedBlock g)

/-- Whether arguments and bounds may follow a type in angle brackets, as for an associated type. -/
def isPlainSegment : TypeTree → Bool
  | .path false false [(_, .none)] => true
  | .path false false [(_, .angle _)] => true
  | _ => false

/-- Lifetimes of a binder, as in `for<'a>`. -/
def binder : Parse Unit := do
  let lifetime : Parse Unit := do
    discard (outerAttributes g)
    takeLifetime
    if ← tryOp ":" then
      discard (listWhile (.anyOf [.nothing, .op ",", .op ">"]) "+" takeLifetime)
  takeWord "for"
  takeOp "<"
  discard (listUntil (.op ">") "," lifetime)
  takeOp ">"

/-- What a trait bound turned out to be. -/
inductive BoundForm where
  | trait
  | lifetime
  /-- What an opaque type captures. -/
  | captures
  deriving DecidableEq

/-- The lifetimes and names that an opaque type captures. -/
def captures : Parse Unit := do
  takeWord "use"
  takeOp "<"
  discard (listUntil (.op ">") "," do
    if ← next .lifetime then takeLifetime
    else
      require (← next (.anyOf [.name, .word "Self"]))
      discard takeAnyWord)
  takeOp ">"

/-- The types in parentheses after a path, and the type after an arrow. -/
def parenArguments : Parse (Option TypeTree) := do
  discard (inGroup .paren (commaList (g.type true)))
  if ← tryOp "->" then pure (some (← g.type false)) else pure none

/-- A path comes, which may begin at a type. -/
def startsPath : Ahead := .anyOf [.name, .words ["super", "self", "Self", "crate"], .ops ["::", "<"]]

/-- A single colon comes. -/
def singleColon : Ahead := fun tokens => Ahead.op ":" tokens && !Ahead.op "::" tokens

/-- Whether parentheses with types come, perhaps after a double colon. -/
def startsParens : Parse Bool := do
  if ← next (.group .paren) then pure true
  else pure ((← next (.op "::")) && (← third (.group .paren)))

/-- A comma. -/
def comma : TokenTree := .mark ',' false

/-- The arguments between angle brackets as they are written: the lifetimes come first. The flag of
an argument tells whether a comma follows it. -/
def orderedArguments (arguments : List (Argument × List TokenTree × Bool)) : List TokenTree :=
  let isLifetime : Argument × List TokenTree × Bool → Bool
    | (.lifetime, _) => true
    | _ => false
  let (lifetimes, others) := arguments.partition isLifetime
  let text (a : Argument × List TokenTree × Bool) : List TokenTree :=
    a.2.1 ++ (if a.2.2 then [comma] else [])
  let rec join : Bool → List (Argument × List TokenTree × Bool) → List TokenTree
    | _, [] => []
    | separated, a :: rest => (if separated then [] else [comma]) ++ text a ++ join a.2.2 rest
  lifetimes.flatMap text ++ join (lifetimes.getLast?.all (·.2.2)) others

/-- The types among arguments. -/
def argumentTypes (arguments : List (Argument × List TokenTree × Bool)) :
    List (TypeTree × List TokenTree) :=
  arguments.filterMap fun
    | (.type t, tokens, _) => some (t, tokens)
    | _ => none

mutual

/-- A trait bound between `?` and its arguments. -/
def traitBound (allowConst : Bool) : Nat → Parse Bool
  | 0 => failure
  | fuel + 1 => do
    let hasBinder ← next (.word "for")
    if hasBinder then binder g
    let isConst ← if ← next (.group .square) then
        inGroup .square (takeWord "const")
        pure true
      else tryWord "const"
    require (allowConst || !isConst)
    let isOptional ← tryOp "?"
    require !(hasBinder && isOptional)
    if isOptional && (← next (.word "for")) then
      binder g
      failure
    let (_, segments) ← path false fuel
    if (segments.getLast?.any (·.2.isNone)) && (← startsParens) then
      if ← next (.op "::") then skipOp "::"
      discard (parenArguments g)
    pure isConst

/-- A bound. -/
def bound (allowCaptures allowConst : Bool) : Nat → Parse BoundForm
  | 0 => failure
  | fuel + 1 => do
    if ← next .lifetime then
      takeLifetime
      pure .lifetime
    else if ← next (.word "use") then
      require allowCaptures
      captures
      pure .captures
    else
      let before ← get
      let isConst ← if ← next (.group .paren) then inGroup .paren (traitBound allowConst fuel)
        else traitBound allowConst fuel
      if isConst then rewriteSince before
      pure .trait

/-- An argument between angle brackets. -/
def argument : Nat → Parse Argument
  | 0 => failure
  | fuel + 1 => do
    if (← next .lifetime) && !(← second (.op "+")) then
      takeLifetime
      pure .lifetime
    else if ← next (.anyOf [.literal, .group .brace]) then
      constArgument g
      pure .other
    else
      let t ← g.type true
      if !isPlainSegment t then pure (.type t)
      else if ← tryOp "=" then
        if ← next (.anyOf [.literal, .group .brace]) then constArgument g
        else discard (g.type true)
        pure .other
      else if ← tryOp ":" then
        discard (listWhile (.ops [",", ">"]) "+" (bound false true fuel))
        pure .other
      else pure (.type t)

/-- Arguments up to the closing angle bracket, each with its tokens. -/
def argumentsFrom : Nat → Parse (List (Argument × List TokenTree × Bool))
  | 0 => failure
  | fuel + 1 => do
    if ← next (.op ">") then return []
    let (a, tokens) ← capture (argument fuel)
    if ← next (.op ">") then return [(a, tokens, false)]
    takeOp ","
    pure ((a, tokens, true) :: (← argumentsFrom fuel))

/-- Arguments between angle brackets. -/
def angleArguments : Nat → Parse (List (TypeTree × List TokenTree))
  | 0 => failure
  | fuel + 1 => do
    takeOp "<"
    let before := (← get).done
    let arguments ← argumentsFrom fuel
    modify fun c => { c with done := before }
    write (orderedArguments arguments)
    takeOp ">"
    pure (argumentTypes arguments)

/-- A segment of a path. In expressions its arguments stand after a double colon. -/
def segment (inExpr : Bool) : Nat → Parse (String × Arguments (TypeTree × List TokenTree))
  | 0 => failure
  | fuel + 1 => do
    if ← next (.words ["super", "self", "crate", "try"]) then return (← takeAnyWord, .none)
    let name ← if ← next (.word "Self") then takeAnyWord else takeName
    let direct := (← next (.op "<")) && !(← next (.ops ["<=", "<<="])) && !inExpr
    if direct || ((← next (.op "::")) && (← third (.op "<"))) then
      discard (tryOp "::")
      pure (name, .angle (← angleArguments fuel))
    else pure (name, .none)

/-- The segments that follow others, each after a double colon. -/
def moreSegments (inExpr : Bool) : Nat → Parse Segments
  | 0 => failure
  | fuel + 1 => do
    if (← next (.op "::")) && !(← third (.group .paren)) then
      takeOp "::"
      let s ← segment inExpr fuel
      pure (s :: (← moreSegments inExpr fuel))
    else pure []

/-- A path, which may begin with a double colon. -/
def path (inExpr : Bool) : Nat → Parse (Bool × Segments)
  | 0 => failure
  | fuel + 1 => do
    let isGlobal ← tryOp "::"
    let s ← segment inExpr fuel
    pure (isGlobal, s :: (← moreSegments inExpr fuel))

/-- The segments after a type in angle brackets. -/
def qualifiedSegments (inExpr : Bool) : Nat → Parse Segments
  | 0 => failure
  | fuel + 1 => do
    let s ← segment inExpr fuel
    if ← tryOp "::" then pure (s :: (← qualifiedSegments inExpr fuel)) else pure [s]

end

/-- Enough steps for the tokens that are left. -/
def steps : Parse Nat := do pure (4 * (← get).rest.length + 16)

/-- A path that may begin at a type, as in `<T as Trait>::Item`: whether it does, whether it begins
with a double colon, and its segments. -/
def qualifiedPath (inExpr : Bool) : Parse (Bool × Bool × Segments) := do
  if ← next (.op "<") then
    takeOp "<"
    discard (g.type true)
    let front ← if ← tryWord "as" then
        pure (← path g false (← steps)).2
      else pure []
    takeOp ">"
    takeOp "::"
    pure (true, false, front ++ (← qualifiedSegments g inExpr (← steps)))
  else
    let (isGlobal, segments) ← path g inExpr (← steps)
    pure (false, isGlobal, segments)

/-- Whether no segment has arguments. -/
def isModulePath (segments : Segments) : Bool := segments.all (·.2.isNone)

/-- Segments whose last one gets arguments in parentheses. -/
def withParens : Segments → Segments
  | [] => []
  | [(name, _)] => [(name, .parens)]
  | s :: rest => s :: withParens rest

/-- The arguments in parentheses after the segments of a path in a type, and further segments where
they may follow. -/
def parenSegments : Nat → Segments → Parse Segments
  | 0, _ => failure
  | fuel + 1, segments => do
    if (segments.getLast?.any (·.2.isNone)) && (← startsParens) then
      if ← next (.op "::") then skipOp "::"
      let segments := withParens segments
      let result ← parenArguments g
      let goesOn := match result with
        | none => true
        | some (.wrapper _) => true
        | _ => false
      if goesOn then
        parenSegments fuel (segments ++ (← moreSegments g false (← steps)))
      else pure segments
    else pure segments

/-! ## Types -/

/-- One bound. -/
def oneBound (allowCaptures allowConst : Bool) : Parse BoundForm := do
  bound g allowCaptures allowConst (← steps)

/-- Bounds with plus signs between them. -/
def bounds (allowPlus allowCaptures allowConst : Bool) : Parse (List BoundForm) := do
  let goesOn : Ahead := .anyOf [.anyWord, .op "::", .op "?", .lifetime, .group .paren]
  let goesOnConst : Ahead := fun tokens => allowConst && Ahead.group .square tokens
  let rec more : Nat → Parse (List BoundForm)
    | 0 => failure
    | fuel + 1 => do
      let b ← oneBound g allowCaptures allowConst
      if ← pure allowPlus <&&> tryOp "+" then
        if ← next (.anyOf [goesOn, goesOnConst]) then pure (b :: (← more fuel)) else pure [b]
      else pure [b]
  more ((← get).rest.length + 1)

/-- Bounds among which is a trait. -/
def traitBounds (allowPlus allowCaptures allowConst : Bool) : Parse Unit := do
  require ((← bounds g allowPlus allowCaptures allowConst).contains .trait)

/-- Bounds after a type that turned out to be the first of them. -/
def plusBounds : Nat → Parse Unit
  | 0 => failure
  | fuel + 1 => do
    if ← tryOp "+" then
      discard (oneBound g false false)
      plusBounds fuel

/-- The name of a calling convention. -/
def convention : Parse Unit := do
  if ← tryWord "extern" then
    if ← next .string then takeLiteral

/-- A parameter of a function type, which may have a name. -/
def bareParam (isFirst : Bool) : Parse Unit := do
  discard (outerAttributes g)
  let isMutSelf := isFirst && (← next (.word "mut")) && (← second (.word "self"))
  if isMutSelf then
    verbatim do
      takeWord "mut"
      takeWord "self"
      if ← next singleColon then
        takeOp ":"
        discard (g.type true)
  else
    let mayHaveName ← next (.anyOf [.name, .word "_", fun t => isFirst && Ahead.word "self" t])
    if mayHaveName && (← second (.op ":")) && !(← second (.op "::")) then
      discard takeAnyWord
      takeOp ":"
    if isFirst && (← next (.word "mut")) && (← second (.word "self")) then
      takeWord "mut"
      takeWord "self"
    else discard (g.type true)

/-- The dots of a function with a variable number of arguments, which may have a name. -/
def bareVariadic : Parse Unit := do
  discard (outerAttributes g)
  if ← next (.anyOf [.name, .word "_"]) then
    discard takeAnyWord
    takeOp ":"
  takeOp "..."
  discard (tryOp ",")

/-- The parameters of a function type. -/
def bareParams (isFirst : Bool) : Nat → Parse Unit
  | 0 => failure
  | fuel + 1 => do
    if ← next .nothing then return
    if ← succeeds (bareVariadic g) then bareVariadic g
    else
      bareParam g isFirst
      if ← tryOp "," then bareParams false fuel

/-- A function type. -/
def bareFunction : Parse Unit := do
  if ← next (.word "for") then binder g
  discard (tryWord "unsafe")
  convention
  takeWord "fn"
  inGroup .paren do bareParams g true ((← get).rest.length + 1)
  if ← tryOp "->" then discard (g.type false)

/-- What stands between the parentheses of a type. -/
inductive ParenForm where
  | tuple (items : List TypeTree)
  | single (type : TypeTree)
  /-- Bounds that begin with a lifetime. -/
  | bounds
  /-- An optional bound. -/
  | optional

/-- The inside of a parenthesized type. -/
def parenInside : Parse ParenForm := do
  if ← next .nothing then return .tuple []
  if ← next .lifetime then
    traitBounds g true false false
    return .bounds
  if ← next (.op "?") then
    discard (traitBound g false (← steps))
    return .optional
  let first ← g.type true
  if ← tryOp "," then pure (.tuple (first :: (← commaList (g.type true))))
  else pure (.single first)

/-- Whether a type in parentheses may be the first of several bounds. -/
def mayBeBound : TypeTree → Bool
  | .path isQualified _ _ => !isQualified
  | .bound => true
  | _ => false

/-- A type that begins with parentheses. -/
def parenType (allowPlus : Bool) : Parse TypeTree := do
  match ← inGroup .paren (parenInside g) with
  | .tuple items => pure (.tuple items)
  | .bounds => pure (.wrapper .other)
  | .optional =>
    plusBounds g (← steps)
    pure .other
  | .single first =>
    if allowPlus && (← next (.op "+")) && mayBeBound first then
      plusBounds g (← steps)
      pure .other
    else pure (.wrapper first)

/-- A type that begins with a path; `hasBinder` tells that `for<…>` stands before it. -/
def pathType (allowPlus hasBinder : Bool) : Parse TypeTree := do
  let (isQualified, isGlobal, segments) ← qualifiedPath g false
  let segments ← parenSegments g (← steps) segments
  if isQualified then return .path true isGlobal segments
  if (← next (.op "!")) && !(← next (.op "!=")) && isModulePath segments then
    takeOp "!"
    discard takeGroup
    return .other
  let hasPlus := allowPlus && (← next (.op "+"))
  if hasPlus then
    let goesOn : Ahead := .anyOf [.anyWord, .op "::", .op "?", .lifetime, .group .paren]
    let rec more : Nat → Parse Unit
      | 0 => failure
      | fuel + 1 => do
        if ← tryOp "+" then
          if ← next goesOn then
            discard (oneBound g false false)
            more fuel
    more (← steps)
    pure .other
  else if hasBinder then pure .bound
  else pure (.path false isGlobal segments)

/-- A type. -/
def typeWithin (allowPlus : Bool) : Parse TypeTree := do
  let hasBinder ← next (.word "for")
  if hasBinder then
    if (← succeeds (bareFunction g)) then
      bareFunction g
      return .other
    binder g
    require (← next (.anyOf [.name, .words ["super", "self", "Self", "crate"]]))
  if ← next (.group .paren) then parenType g allowPlus
  else if ← next (.words ["fn", "unsafe", "extern"]) then
    bareFunction g
    pure .other
  else if ← next startsPath then
    pathType g allowPlus hasBinder
  else if ← next (.word "dyn") then
    if ← second (.op "*") then
      verbatim do
        takeWord "dyn"
        takeOp "*"
        traitBounds g allowPlus false false
    else
      takeWord "dyn"
      traitBounds g allowPlus false false
    pure .other
  else if ← next (.group .square) then
    let inner ← inGroup .square do
      let inner ← g.type true
      if ← tryOp ";" then expression g
      pure inner
    pure (.wrapper inner)
  else if ← tryOp "*" then
    if !(← tryWord "const") then takeWord "mut"
    discard (g.type false)
    pure .other
  else if ← tryOp "&" then
    tryLifetime
    discard (tryWord "mut")
    pure (.wrapper (← g.type false))
  else if ← tryOp "!" then pure .other
  else if ← tryWord "impl" then
    traitBounds g allowPlus true true
    pure .other
  else if ← tryWord "_" then pure .other
  else
    require (← next .lifetime)
    traitBounds g true false false
    pure .other

/-- The type after an arrow, with its tokens, if there is an arrow. -/
def returnType? : Parse (Option (TypeTree × List TokenTree)) := do
  if ← tryOp "->" then pure (some (← capture (g.type true))) else pure none

/-! ## Generics -/

/-- A generic parameter. -/
def genericParam : Parse Unit := do
  discard (outerAttributes g)
  if ← next .lifetime then
    takeLifetime
    if ← tryOp ":" then
      discard (listWhile (.anyOf [.nothing, .ops [",", ">"]]) "+" takeLifetime)
  else if ← next .name then
    discard takeName
    if ← tryOp ":" then
      discard (listWhile (.anyOf [.nothing, .ops [",", ">", "="]]) "+" (oneBound g false true))
    if ← tryOp "=" then discard (g.type true)
  else if ← tryWord "const" then
    discard takeName
    takeOp ":"
    discard (g.type true)
    if ← tryOp "=" then constArgument g
  else takeWord "_"

/-- Generic parameters; tells whether there is one. -/
def generics : Parse Bool := do
  if ← next (.op "<") then
    takeOp "<"
    let params ← listUntil (.op ">") "," (genericParam g)
    takeOp ">"
    pure !params.isEmpty
  else pure false

/-- Whether what begins with an angle bracket are generic parameters and no path. -/
def startsGenerics : Ahead := fun tokens =>
  Ahead.op "<" tokens &&
    (Ahead.op ">" (tokens.drop 1) || Ahead.op "#" (tokens.drop 1) ||
      Ahead.word "const" (tokens.drop 1) ||
      ((Ahead.lifetime (tokens.drop 1) || Ahead.name (tokens.drop 1)) &&
        (Ahead.op ">" (tokens.drop 2) || Ahead.op "," (tokens.drop 2) ||
          (Ahead.op ":" (tokens.drop 2) && !Ahead.op "::" (tokens.drop 2)) ||
          Ahead.op "=" (tokens.drop 2))))

/-- What ends the predicates of a `where` clause. -/
def whereEnd : Ahead :=
  .anyOf [.nothing, .group .brace, .op ",", .op ";", singleColon, .op "="]

/-- A predicate of a `where` clause. -/
def wherePredicate : Parse Unit := do
  if (← next .lifetime) && (← second (.op ":")) then
    takeLifetime
    takeOp ":"
    discard (listWhile (.anyOf [whereEnd, .op ":"]) "+" takeLifetime)
  else
    if ← next (.word "for") then binder g
    discard (g.type true)
    takeOp ":"
    discard (listWhile whereEnd "+" (oneBound g false true))

/-- A `where` clause, if there is one. -/
def whereClause : Parse Unit := do
  if ← tryWord "where" then
    require !(← next startsGenerics)
    discard (listWhile whereEnd "," (wherePredicate g))

end TransportGen.Source
