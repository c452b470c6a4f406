import TransportGen.Source.Expression
import TransportGen.Source.Spelling

/-!
# Items

The grammar of what stands in a module. Traits, types and modules are kept with what declarations
show of them; of all other items only the form is checked.
-/

namespace TransportGen.Source

variable (g : Grammar)

/-! ## Names in types -/

mutual

/-- The names of one segment in a type. Function types and bounds are not looked into. -/
def typeNames : TypeTree → List String
  | .path isQualified _ segments =>
    let own := match isQualified, segments with
      | false, [(name, _)] => [name]
      | _, _ => []
    own ++ segmentNames segments
  | .wrapper inner => typeNames inner
  | .tuple items => itemNames items
  | _ => []

/-- The names in the arguments of path segments. -/
def segmentNames : List (String × Arguments (TypeTree × List TokenTree)) → List String
  | [] => []
  | (_, .angle types) :: rest => argumentNames types ++ segmentNames rest
  | _ :: rest => segmentNames rest

/-- The names in arguments. -/
def argumentNames : List (TypeTree × List TokenTree) → List String
  | [] => []
  | (type, _) :: rest => typeNames type ++ argumentNames rest

/-- The names in types. -/
def itemNames : List TypeTree → List String
  | [] => []
  | type :: rest => typeNames type ++ itemNames rest

end

/-- A type with its tokens. -/
abbrev WrittenType := TypeTree × List TokenTree

/-- The text of a type, unless it is `()`. -/
def nonUnit? : WrittenType → Option String
  | (.tuple [], _) => none
  | (_, tokens) => some (spelling tokens)

/-- The success and error types of a path that ends with `Result` and has at least one type as its
argument. -/
def resultTypes? : TypeTree → Option (WrittenType × Option WrittenType)
  | .path _ _ segments =>
    match segments.getLast? with
    | some ("Result", .angle (ok :: rest)) => some (ok, rest.head?)
    | _ => none
  | _ => none

/-! ## Functions -/

/-- A parameter of a function. -/
inductive Param where
  | receiver (receiver : Receiver)
  | typed (form : PatternForm) (pattern : List TokenTree) (type : WrittenType)
  /-- The dots of a variable number of parameters. -/
  | variadic

/-- A receiver. -/
def receiver : Parse Receiver := do
  let isRef ← tryOp "&"
  if isRef then tryLifetime
  let isMut ← tryWord "mut"
  takeWord "self"
  if ← pure !isRef <&&> tryOp ":" then discard (g.type true)
  pure (if isRef && isMut then .refMut else if isRef then .ref else .value)

/-- A parameter. One that is a type with arguments needs no pattern. -/
def param : Parse Param := do
  if ← succeeds (receiver g) then return .receiver (← receiver g)
  if (← next .name) && (← second (.op "<")) then
    return .typed .other [.word "_"] (← capture (g.type true))
  let (form, pattern) ← capture g.pattern
  takeOp ":"
  if ← tryOp "..." then return .variadic
  pure (.typed form pattern (← capture (g.type true)))

/-- Parameters. Only the first may be a receiver, and only the last may be variadic. -/
def params (isFirst : Bool) : Nat → Parse (List Param)
  | 0 => failure
  | fuel + 1 => do
    if ← next .nothing then return []
    discard (outerAttributes g)
    let p ← if ← tryOp "..." then pure .variadic else param g
    if p matches .receiver _ then require isFirst
    if !(← next .nothing) then takeOp ","
    if p matches .variadic then return []
    pure (p :: (← params false fuel))

/-- What is declared of a function before its body. -/
structure Signature where
  name : String
  isAsync : Bool
  isGeneric : Bool
  params : List Param
  output : Option WrittenType

/-- The words before `fn`; tells whether one of them is `async`. -/
def functionWords (allowSafe : Bool) : Parse Bool := do
  discard (tryWord "const")
  let isAsync ← tryWord "async"
  let isUnsafe ← tryWord "unsafe"
  if allowSafe && !isUnsafe then discard (tryWord "safe")
  convention
  pure isAsync

/-- Whether a function begins. -/
def startsFunction (allowSafe : Bool) : Parse Bool := succeeds do
  discard (functionWords allowSafe)
  require (← next (.word "fn"))

/-- A function without its body. -/
def signature (allowSafe : Bool) : Parse Signature := do
  let isAsync ← functionWords allowSafe
  takeWord "fn"
  let name ← takeName
  let isGeneric ← generics g
  let params ← inGroup .paren do params g true ((← get).rest.length + 1)
  let output ← returnType? g
  whereClause g
  pure ⟨name, isAsync, isGeneric, params, output⟩

/-- The doc texts of a body, or nothing where a semicolon stands in its place. -/
def optionalBody : Parse (Option (List (List Char))) := do
  if ← tryOp ";" then pure none else pure (some (← attributedBlock g))

/-! ## Declarations of methods -/

/-- The lines of doc texts. -/
def docLines (docs : List (List Char)) : List String :=
  (docs.flatMap Text.lines).map String.ofList

/-- How the first parameter takes the service. -/
def Signature.receiver (s : Signature) : Receiver :=
  match s.params with
  | .receiver r :: _ => r
  | _ => .none

/-- The parameters with plain names. -/
def Signature.paramDecls (s : Signature) : List ParamDecl :=
  s.params.filterMap fun
    | .typed (.name name) _ (_, tokens) => some ⟨name, spelling tokens⟩
    | _ => none

/-- The first parameter that is a pattern. -/
def Signature.unsupported? (s : Signature) : Option String :=
  s.params.findSome? fun
    | .typed (.name _) _ _ => none
    | .typed _ pattern _ => some (spelling pattern)
    | _ => none

/-- The names in the types of a signature. -/
def Signature.typeNames (s : Signature) : NameSet :=
  let types := s.params.filterMap (fun
    | .typed _ _ type => some type
    | _ => none) ++ s.output.toList
  NameSet.ofNames (argumentNames types)

/-- The method that a signature declares, with its doc texts. -/
def Signature.method (s : Signature) (docs : List (List Char)) (hasDefault : Bool) : MethodDecl :=
  let result := s.output.bind fun (type, _) => resultTypes? type
  let ok := match result with
    | some (ok, _) => some ok
    | none => s.output
  { name := s.name
    docs := docLines docs
    receiver := s.receiver
    params := s.paramDecls
    unsupportedParam := s.unsupported?
    isGeneric := s.isGeneric
    isAsync := s.isAsync
    hasDefault := hasDefault
    returnType := (s.output.map fun (_, tokens) => spelling tokens).getD "()"
    okType := ok.bind nonUnit?
    errType := result.bind fun (_, error) => error.map fun (_, tokens) => spelling tokens
    returnsResult := result.isSome
    referencedTypes := s.typeNames }

/-! ## Parts that several items share -/

/-- A macro call that is an item. -/
def macroCall (mayDefine : Bool) : Parse Unit := do
  require (← next (.anyOf [.name, .words ["self", "super", "crate"], .op "::"]))
  discard plainPath
  takeOp "!"
  if mayDefine && (← next (.anyOf [.name, .word "try"])) then discard takeAnyWord
  if (← takeGroup) != .brace then takeOp ";"

/-- A constant. -/
def constant : Parse Unit := do
  takeWord "const"
  require (← next (.anyOf [.name, .word "_"]))
  discard takeAnyWord
  discard (generics g)
  takeOp ":"
  discard (g.type true)
  if ← tryOp "=" then expression g
  whereClause g
  takeOp ";"

/-- Where the `where` clause of a type alias may stand. -/
inductive WherePlace where
  | beforeType
  | afterType
  | either
  deriving DecidableEq

/-- A type alias; tells its name and whether it stands for a type without bounds. -/
def typeAlias (place : WherePlace) : Parse (String × Bool) := do
  takeWord "type"
  let name ← takeName
  discard (generics g)
  let hasBounds ← tryOp ":"
  if hasBounds then
    discard (listUntil (.anyOf [.word "where", .ops ["=", ";"]]) "+" (oneBound g false true))
  let hasWhere ← next (.word "where")
  if place != .afterType then whereClause g
  let hasType ← tryOp "="
  if hasType then discard (g.type true)
  if place == .afterType || place == .either && !hasWhere then whereClause g
  takeOp ";"
  pure (name, hasType && !hasBounds)

/-- A variable. -/
def variableItem (allowSafe isDeclaration : Bool) : Parse Unit := do
  if allowSafe then discard (tryWord "unsafe" <||> tryWord "safe")
  takeWord "static"
  discard (tryWord "mut")
  discard takeName
  if ← pure !isDeclaration <&&> tryOp "=" then expression g
  else
    takeOp ":"
    discard (g.type true)
    if ← tryOp "=" then expression g
  takeOp ";"

/-! ## Types -/

/-- A field with a name. In one without a name the type may be written out. -/
def namedField (fields : Parse Unit) : Parse FieldDecl := do
  discard (outerAttributes g)
  discard visibility
  let isUnnamed ← next (.word "_")
  let name ← if isUnnamed then takeAnyWord else takeName
  takeOp ":"
  let isInline := isUnnamed && ((← next (.word "struct")) ||
    ((← next (.word "union")) && (← second (.group .brace))))
  let inlineType : Parse TypeTree := verbatim do
    discard takeAnyWord
    fields
    pure .other
  let (type, tokens) ← capture (if isInline then inlineType else g.type true)
  pure ⟨name, spelling tokens, NameSet.ofNames (typeNames type)⟩

/-- Fields in braces, which are nested at most `depth` times. -/
def namedFieldsWithin : Nat → Parse (List FieldDecl)
  | 0 => failure
  | depth + 1 => inGroup .brace
      (commaList (namedField g (discard (namedFieldsWithin depth))))

/-- Fields in braces. -/
def namedFields : Parse (List FieldDecl) := do
  namedFieldsWithin g (treesSize (← get).rest + 1)

/-- Fields in parentheses. -/
def tupleFields : Parse Unit := discard <| inGroup .paren <| commaList do
  discard (outerAttributes g)
  discard visibility
  g.type true

/-- A struct. -/
def structItem : Parse Item := do
  takeWord "struct"
  let name ← takeName
  discard (generics g)
  let hasWhere ← next (.word "where")
  whereClause g
  if !hasWhere && (← next (.group .paren)) then
    tupleFields g
    whereClause g
    takeOp ";"
    pure (.type name .hidden)
  else if ← next (.group .brace) then pure (.type name (.record (← namedFields g)))
  else
    takeOp ";"
    pure (.type name .hidden)

/-- A variant of an enumeration. -/
def variant : Parse VariantDecl := do
  discard (outerAttributes g)
  discard visibility
  let name ← takeName
  let isRecord ← next (.group .brace)
  let isTuple ← next (.group .paren)
  if isRecord then discard (namedFields g)
  if isTuple then tupleFields g
  if ← tryOp "=" then expression g
  pure ⟨name, !isRecord && !isTuple⟩

/-- An enumeration. -/
def enumItem : Parse Item := do
  takeWord "enum"
  let name ← takeName
  discard (generics g)
  whereClause g
  pure (.type name (.variants (← inGroup .brace (commaList (variant g)))))

/-- A union. -/
def unionItem : Parse Unit := do
  takeWord "union"
  discard takeName
  discard (generics g)
  whereClause g
  discard (namedFields g)

/-! ## Traits -/

/-- An item of a trait; a method is kept unless a word before it says otherwise. -/
def traitMember : Parse (Option MethodDecl) := do
  let docs ← outerAttributes g
  let isPublic ← visibility
  let isDefault ← tryWord "default"
  if ← startsFunction false then
    let s ← signature g false
    let body ← optionalBody g
    pure (if isPublic || isDefault then none
      else some (s.method (docs ++ body.getD []) body.isSome))
  else
    if ← next (.word "const") then constant g
    else if ← next (.word "type") then discard (typeAlias g .afterType)
    else
      require (!isPublic && !isDefault)
      macroCall false
    pure none

/-- A trait or an alias of bounds. -/
def traitItem (docs : List (List Char)) : Parse Item := do
  let isUnsafe ← tryWord "unsafe"
  let isAuto ← tryWord "auto"
  takeWord "trait"
  let name ← takeName
  let isGeneric ← generics g
  if ← pure !(isUnsafe || isAuto) <&&> tryOp "=" then
    discard (listUntil (.anyOf [.word "where", .op ";"]) "+" (oneBound g false false))
    whereClause g
    takeOp ";"
    pure .other
  else
    if ← tryOp ":" then
      discard (listUntil (.anyOf [.word "where", .group .brace]) "+" (oneBound g false true))
    whereClause g
    inGroup .brace do
      let inner ← innerAttributes g
      let methods ← manyToEnd (traitMember g)
      pure (.interface name (docLines (docs ++ inner)) (methods.filterMap id) isGeneric)

/-! ## Implementations -/

/-- An item of an implementation. -/
def implMember : Parse Unit := do
  discard (outerAttributes g)
  let isPublic ← visibility
  let isDefault := (← next (.word "default")) && !(← second (.op "!"))
  if isDefault then takeWord "default"
  if ← startsFunction false then
    discard (signature g false)
    discard (optionalBody g)
  else if ← next (.word "const") then constant g
  else if ← next (.word "type") then discard (typeAlias g .afterType)
  else
    require (!isPublic && !isDefault)
    macroCall false

/-- An implementation. -/
def implItem : Parse Unit := do
  discard (tryWord "default")
  discard (tryWord "unsafe")
  takeWord "impl"
  if ← next startsGenerics then discard (generics g)
  if (← next (.word "const")) || ((← next (.op "?")) && (← second (.word "const"))) then
    discard (tryOp "?")
    takeWord "const"
  if (← next (.op "!")) && !(← second (.group .brace)) then takeOp "!"
  discard (g.type true)
  if ← tryWord "for" then discard (g.type true)
  whereClause g
  inGroup .brace do
    discard (innerAttributes g)
    discard (manyToEnd (implMember g))

/-! ## Other items -/

/-- An item of another language's library. -/
def foreignMember : Parse Unit := do
  discard (outerAttributes g)
  let isPublic ← visibility
  if ← startsFunction true then
    discard (signature g true)
    discard (optionalBody g)
  else if (← next (.word "static")) ||
      ((← next (.words ["unsafe", "safe"])) && (← second (.word "static"))) then
    variableItem g true true
  else if ← next (.word "type") then discard (typeAlias g .either)
  else
    require !isPublic
    macroCall false

/-- Declarations of another language's library. -/
def foreignModule : Parse Unit := do
  discard (tryWord "unsafe")
  require (← next (.word "extern"))
  convention
  inGroup .brace do
    discard (innerAttributes g)
    discard (manyToEnd (foreignMember g))

/-- A new name after `as`. -/
def newName : Parse Unit := do
  if ← tryWord "as" then
    require (← next (.anyOf [.name, .word "_"]))
    discard takeAnyWord

/-- A library that is used. -/
def libraryItem : Parse Unit := do
  takeWord "extern"
  takeWord "crate"
  require (← next (.anyOf [.name, .word "self"]))
  discard takeAnyWord
  newName
  takeOp ";"

/-- Names that are used, nested at most `depth` times. Double colons may stand first as long as no
name does. -/
def useTree (mayBeGlobal : Bool) : Nat → Parse Unit
  | 0 => failure
  | depth + 1 => do
    if ← next (.anyOf [.name, .words ["self", "super", "crate", "try"]]) then
      discard takeAnyWord
      if ← tryOp "::" then useTree false depth else newName
    else if ← tryOp "*" then pure ()
    else discard <| inGroup .brace <| commaList do
      let isGlobal ← if mayBeGlobal then tryOp "::" else pure false
      useTree (mayBeGlobal && !isGlobal) depth

/-- A use of names. -/
def useItem : Parse Unit := do
  takeWord "use"
  let isGlobal ← tryOp "::"
  useTree (!isGlobal) (treesSize (← get).rest + 1)
  takeOp ";"

/-- A module. -/
def moduleItem : Parse Item := do
  discard (tryWord "unsafe")
  takeWord "mod"
  let name ← if ← next (.word "try") then takeAnyWord else takeName
  if ← tryOp ";" then pure .other
  else inGroup .brace do
    discard (innerAttributes g)
    pure (.module name (← manyToEnd g.item))

/-- A definition of a macro that has parameters in parentheses or a block of rules. -/
def macroDefinition : Parse Unit := do
  takeWord "macro"
  discard takeName
  if ← next (.group .paren) then discard takeGroup
  require (← next (.group .brace))
  discard takeGroup

/-- An item. -/
def itemWithin : Parse Item := do
  let other (p : Parse Unit) : Parse Item := do
    p
    pure .other
  let docs ← outerAttributes g
  let isPublic ← visibility
  let foreign := do
    require !isPublic
    foreignModule g
  if ← startsFunction false then other do
    discard (signature g false)
    discard (optionalBody g)
  else if ← next (.word "extern") then
    other (if ← second (.word "crate") then libraryItem else foreign)
  else if ← next (.word "use") then other useItem
  else if ← next (.word "static") then other (variableItem g false false)
  else if ← next (.word "const") then other (constant g)
  else if (← next (.word "unsafe")) && (← second (.word "impl")) then other (implItem g)
  else if (← next (.word "unsafe")) && (← second (.word "extern")) then other foreign
  else if (← next (.word "unsafe")) && (← second (.word "mod")) then moduleItem g
  else if ← next (.words ["trait", "unsafe"]) then traitItem g docs
  else if ← next (.word "mod") then moduleItem g
  else if ← next (.word "type") then
    let (name, isAlias) ← typeAlias g .beforeType
    pure (if isAlias then .type name .hidden else .other)
  else if ← next (.word "struct") then structItem g
  else if ← next (.word "enum") then enumItem g
  else if (← next (.word "union")) && (← second .name) then other (unionItem g)
  else if (← next (.word "auto")) && (← second (.word "trait")) then traitItem g docs
  else if (← next (.word "impl")) || ((← next (.word "default")) && !(← second (.op "!"))) then
    other (implItem g)
  else if ← next (.word "macro") then other macroDefinition
  else
    require !isPublic
    other (macroCall true)

end TransportGen.Source
