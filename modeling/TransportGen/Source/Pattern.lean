import TransportGen.Source.Literal
import TransportGen.Source.Type

/-!
# Patterns

The grammar of patterns. What is written of a parameter pattern appears in messages, so a range is
written with `..=` also where the source has the older `...`.
-/

namespace TransportGen.Source

variable (g : Grammar)

/-- The position of a field as an identifier of a tuple, which is below 2³². -/
def isIndex (text : List Char) : Bool :=
  let (base, digits) := numberBase text
  let value := digits.foldl (fun value? c => do
    let value ← value?
    if c == '_' then some value
    else
      let digit ← Text.hexValue? c
      if digit < base then some (value * base + digit) else none) (some 0)
  !digits.isEmpty && value.any (· < 1 <<< 32)

/-- The text of a literal. -/
def literalText : TokenTree → List Char
  | .literal _ text => text.toList
  | _ => []

/-- The name or position of a field; tells whether it is a name. -/
def takeMember : Parse Bool := do
  if ← next .name then
    discard takeName
    pure true
  else
    let token ← takeIf Ahead.literal
    require (isIndex (literalText token))
    pure false

/-- The dots of a range; tells whether its end belongs to it. -/
def rangeDots : Parse Bool := do
  require !(← next (.op "..."))
  if ← tryOp "..=" then pure true
  else
    takeOp ".."
    pure false

/-- The dots of a range in a pattern, of which three mean the same as `..=`. -/
def patternDots : Parse Bool := do
  if ← next (.op "...") then
    skipOp "..."
    write (operatorMarks "..=".toList)
    pure true
  else rangeDots

/-- The end of a range in a pattern, if there is one. -/
def rangeBound : Parse Bool := do
  if ← next (.anyOf [.nothing, .ops ["|", "=", ",", ";"], singleColon, .word "if"]) then
    return false
  if ← next .literal then takeLiteral
  else if ← tryWord "const" then discard (attributedBlock g)
  else
    require (← next startsPath)
    discard (qualifiedPath g true)
  pure true

/-- The dots of a range and its end, which some dots need; tells whether there is one. -/
def rangeRest (dots : Parse Bool) : Parse Bool := do
  let isClosed ← dots
  let hasEnd ← rangeBound g
  require (hasEnd || !isClosed)
  pure hasEnd

/-- Whether an alternative follows in a pattern. -/
def startsAlternative : Ahead := fun tokens =>
  Ahead.op "|" tokens && !Ahead.op "||" tokens && !Ahead.op "|=" tokens

/-- A pattern with alternatives, before the first of which a bar may stand. -/
def alternatives : Parse PatternForm := do
  let isLed ← tryOp "|"
  let first ← g.pattern
  let rec more : Nat → Parse Unit
    | 0 => failure
    | fuel + 1 => do
      if ← next startsAlternative then
        takeOp "|"
        discard g.pattern
        more fuel
  if isLed || (← next startsAlternative) then
    more ((← get).rest.length + 1)
    pure .other
  else pure first

/-- A field of a struct pattern. -/
def fieldPattern : Parse Unit := do
  let before ← get
  let isBox ← tryWord "box"
  let isRef ← tryWord "ref"
  let isMut ← tryWord "mut"
  if isBox || isRef || isMut then
    discard takeName
    if isBox then rewriteSince before
  else
    let isNamed ← takeMember
    if !isNamed || (← next (.op ":")) then
      takeOp ":"
      discard (alternatives g)

/-- The fields of a struct pattern, of which two dots may leave out the last. -/
def fieldPatterns : Nat → Parse Unit
  | 0 => failure
  | fuel + 1 => do
    if ← next .nothing then return
    discard (outerAttributes g)
    if ← tryOp ".." then return
    fieldPattern g
    if ← tryOp "," then fieldPatterns fuel

/-- A pattern that begins with a path. -/
def pathPattern : Parse PatternForm := do
  let (isQualified, _, segments) ← qualifiedPath g true
  if !isQualified && (← next (.op "!")) && !(← next (.op "!=")) && isModulePath segments then
    takeOp "!"
    discard takeGroup
    return .other
  if ← next (.group .brace) then
    inGroup .brace do fieldPatterns g ((← get).rest.length + 1)
    pure .other
  else if ← next (.group .paren) then
    discard (inGroup .paren (commaList (alternatives g)))
    pure .other
  else if ← next (.op "..") then
    pure (if ← rangeRest g patternDots then .other else .openRange)
  else pure .other

/-- A binding of a name. -/
def bindingPattern : Parse PatternForm := do
  discard (tryWord "ref")
  discard (tryWord "mut")
  let name ← if ← next (.word "self") then takeAnyWord else takeName
  if ← tryOp "@" then discard g.pattern
  pure (.name name)

/-- The inside of a slice pattern, where a range has to have both its ends. -/
def sliceInside : Parse Unit := discard (commaList do
  require ((← alternatives g) matches .name _ | .other))

/-- Whether a path comes and no single name that is bound. -/
def startsPathPattern : Ahead := fun tokens =>
  let followed (options : Ahead) := options (tokens.drop 1)
  Ahead.name tokens &&
      followed (.anyOf [.ops ["::", "!", ".."], .group .brace, .group .paren]) ||
    Ahead.word "self" tokens && followed (.op "::") ||
    Ahead.ops ["::", "<"] tokens || Ahead.words ["Self", "super", "crate"] tokens

/-- A pattern without alternatives. -/
def patternWithin : Parse PatternForm := do
  if ← next startsPathPattern then pathPattern g
  else if ← tryWord "_" then pure .other
  else if ← next (.word "box") then
    verbatim do
      takeWord "box"
      discard g.pattern
    pure .other
  else if ← next (.anyOf [.op "-", .literal, .word "const"]) then
    require (← rangeBound g)
    if ← next (.op "..") then
      pure (if ← rangeRest g patternDots then .other else .openRange)
    else pure .other
  else if ← next (.anyOf [.words ["ref", "mut", "self"], .name]) then bindingPattern g
  else if ← tryOp "&" then
    discard (tryWord "mut")
    discard g.pattern
    pure .other
  else if ← next (.group .paren) then
    discard (inGroup .paren (commaList (alternatives g)))
    pure .other
  else if ← next (.group .square) then
    inGroup .square (sliceInside g)
    pure .other
  else
    require (← next (.op ".."))
    pure (if ← rangeRest g rangeDots then .openRange else .other)

end TransportGen.Source
