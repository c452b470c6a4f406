import TransportGen.Directive.Accumulator
import TransportGen.Directive.Basic
import TransportGen.TypeText
import TransportGen.UriTemplate

/-!
# The chain of directive links

A link recognizes one keyword and says how its argument changes an accumulator. A directive walks a
chain link by link until one takes it; a directive that no link takes is dropped, so that texts may
carry keywords of other versions of the program.

* `methodChain` and `documentChain` are the chains of the two accumulators.
* `feed` walks one directive along a chain; `collect` reads all lines of a doc comment.
-/

namespace TransportGen

/-- What is wrong with the argument of a directive. -/
inductive DirectiveProblem where
  | missingArgument (keyword : String)
  | pairExpected (keyword : String)
  | badName (name what : String)
  | badStatus (text : String)
  | unknownVerb (verb : String)
  | badTemplate (error : TemplateError)
  | emptyQueryKey (param : String)
  | badHeaderName (name : String)
  | badMediaType (value : String)
  | badContentCoding (value : String)
  | badErrorItem (item : String)
  | badServer (error : ServerError)
  deriving DecidableEq, Repr

/-- The wording of a problem. -/
def DirectiveProblem.message : DirectiveProblem → String
  | .missingArgument keyword => "`" ++ keyword ++ "` expects an argument"
  | .pairExpected keyword => "`" ++ keyword ++ "` expects two values"
  | .badName name what => "`" ++ name ++ "` is not a valid " ++ what ++ " name"
  | .badStatus text => "`" ++ text ++ "` is not an HTTP status code"
  | .unknownVerb verb => "unknown HTTP method `" ++ verb ++ "`"
  | .badTemplate error => error.message
  | .emptyQueryKey param => "empty query key for `" ++ param ++ "`"
  | .badHeaderName name => "`" ++ name ++ "` is not a valid header name"
  | .badMediaType value => "`" ++ value ++ "` is not a media type"
  | .badContentCoding value => "`" ++ value ++ "` is not a content coding"
  | .badErrorItem item => "`" ++ item ++ "` is not `Error=status`"
  | .badServer error => error.message

/-- A directive whose argument is wrong, with the line that holds it. -/
structure DirectiveError where
  line : String
  problem : DirectiveProblem
  deriving DecidableEq, Repr

/-- A link: the keyword it takes, how a non-empty argument is cut into items, and what one item does
to the accumulator. -/
structure Link (α : Type) where
  keyword : String
  items : String → List String
  update : String → Except DirectiveProblem (α → α)

/-- What is left after a directive went by: the accumulator, and either whether the directive was
taken or what is wrong with it. -/
structure Outcome (α : Type) where
  state : α
  result : Except DirectiveError Bool

section Feeding

variable {α : Type}

/-- Applies the items of an argument in order, up to a first wrong one. What the items before it
changed is kept. -/
def Link.applyItems (link : Link α) (line : String) (state : α) : List String → Outcome α
  | [] => ⟨state, .ok true⟩
  | item :: rest =>
    match link.update item with
    | .ok change => link.applyItems line (change state) rest
    | .error problem => ⟨state, .error ⟨line, problem⟩⟩

/-- A link passes on a directive with another keyword. -/
def Link.apply (link : Link α) (d : Directive) (state : α) : Outcome α :=
  if d.keyword ≠ link.keyword then ⟨state, .ok false⟩
  else if d.argument.isEmpty then ⟨state, .error ⟨d.line, .missingArgument d.keyword⟩⟩
  else link.applyItems d.line state (link.items d.argument)

/-- Walks a directive along a chain until a link takes it or refuses its argument. -/
def feed (d : Directive) (state : α) : List (Link α) → Outcome α
  | [] => ⟨state, .ok false⟩
  | link :: rest =>
    let outcome := link.apply d state
    match outcome.result with
    | .ok false => feed d outcome.state rest
    | _ => outcome

/-- Feeds the directives among the lines to a chain, up to a first wrong one. -/
def collectFrom (chain : List (Link α)) (marker : String) (state : α) :
    List String → Except DirectiveError α
  | [] => .ok state
  | line :: rest =>
    match Directive.parse marker line with
    | none => collectFrom chain marker state rest
    | some d =>
      let outcome := feed d state chain
      match outcome.result with
      | .ok _ => collectFrom chain marker outcome.state rest
      | .error e => .error e

end Feeding

/-! ## Arguments -/

/-- The argument as its only item. -/
def oneItem (argument : String) : List String := [argument]

/-- Items between commas and blanks. -/
def listItems (argument : String) : List String :=
  (Text.fields (fun c => c == ',' || Text.isBlank c) argument.toList).map String.ofList

/-- A name in a given role. -/
def checkName (what name : String) : Except DirectiveProblem String :=
  if Text.isName name.toList then .ok name else .error (.badName name what)

/-- A header name, kept as it is spelled. -/
def checkHeaderName (name : String) : Except DirectiveProblem String :=
  if isHeaderName name then .ok name else .error (.badHeaderName name)

/-- The two values on the sides of a first separator. -/
def pairOf (keyword : String) (separator : Char → Bool) (argument : String) :
    Except DirectiveProblem (String × String) :=
  match Text.splitFirst separator argument.toList with
  | some (a, b) =>
    let a := Text.trim a
    let b := Text.trim b
    if a.isEmpty || b.isEmpty then .error (.pairExpected keyword)
    else .ok (String.ofList a, String.ofList b)
  | none => .error (.pairExpected keyword)

/-- The text in a pair of braces. -/
def inBraces? (text : String) : Option String :=
  match Text.stripStart? ['\x7b'] text.toList with
  | some rest => (Text.stripEnd? ['\x7d'] rest).map String.ofList
  | none => none

/-- A status code. -/
def statusOf (text : String) : Except DirectiveProblem Nat :=
  let text := Text.trim text.toList
  match statusCode? text with
  | some code => .ok code
  | none => .error (.badStatus (String.ofList text))

/-- A path template. -/
def templateOf (text : String) : Except DirectiveProblem String :=
  match pathVariables text with
  | .ok _ => .ok text
  | .error e => .error (.badTemplate e)

/-- A media type holds a slash and no blank. -/
def mediaTypeOf (text : String) : Except DirectiveProblem String :=
  if text.toList.contains '/' && !text.toList.any Text.isBlank then .ok text
  else .error (.badMediaType text)

/-- A field and its JSON name, with an equals sign between them if there is one anywhere and a space
or tab otherwise. -/
def jsonTagOf (keyword argument : String) : Except DirectiveProblem (String × String) := do
  let separator : Char → Bool :=
    if argument.toList.contains '=' then (· == '=') else fun c => c == ' ' || c == '\t'
  let (field, tag) ← pairOf keyword separator argument
  let field ← checkName "field" field
  pure (field, tag)

/-- A parameter and its query key, which is the parameter's name unless given. -/
def queryOf (item : String) : Except DirectiveProblem QueryDirective := do
  let (param, key) := match Text.splitFirst (· == '=') item.toList with
    | some (param, key) => (String.ofList (Text.trim param), String.ofList (Text.trim key))
    | none => (item, item)
  if key.isEmpty then throw (.emptyQueryKey param)
  let param ← checkName "parameter" param
  pure ⟨param, key⟩

/-- A header and the parameter it carries; braces around the parameter are dropped. -/
def headerOf (argument : String) : Except DirectiveProblem HeaderDirective := do
  let (name, value) ← pairOf "header" (· == ':') argument
  let param ← checkName "parameter" ((inBraces? value).getD value)
  let name ← checkHeaderName name
  pure ⟨name, param⟩

/-- A response header and its value; braces make it a field. -/
def responseHeaderOf (argument : String) : Except DirectiveProblem ResponseHeader := do
  let (name, value) ← pairOf "response-header" (· == ':') argument
  let value ← match inBraces? value with
    | some field => (checkName "field" field).map HeaderValue.field
    | none => pure (HeaderValue.literal value)
  let name ← checkHeaderName name
  pure ⟨name, value⟩

/-- An error variant, bare or qualified, and its status. -/
def errorStatusOf (item : String) : Except DirectiveProblem (String × Nat) := do
  let (name, code) ← match Text.splitFirst (· == '=') item.toList with
    | some (name, code) => pure (String.ofList name, String.ofList code)
    | none => throw (.badErrorItem item)
  let _ ← checkName "error" (lastSegment name)
  let code ← statusOf code
  pure (name, code)

/-- A kind of body, or the field that is the body. -/
def responseBodyOf (argument : String) : Except DirectiveProblem ResponseBody :=
  match argument with
  | "json" => .ok .json
  | "raw" => .ok .raw
  | "empty" => .ok .empty
  | field => (checkName "field" field).map ResponseBody.field

/-- A request method in any case. -/
def verbOf (argument : String) : Except DirectiveProblem Verb :=
  let word := String.ofList (Text.upperAscii argument.toList)
  match Verb.ofName? word with
  | some verb => .ok verb
  | none => .error (.unknownVerb word)

/-- A content coding, in lower case. -/
def contentCodingOf (argument : String) : Except DirectiveProblem String :=
  if argument.toList.any Text.isBlank then .error (.badContentCoding argument)
  else .ok (String.ofList (Text.lowerAscii argument.toList))

/-- A path template without its trailing slashes. -/
def pathPrefixOf (argument : String) : Except DirectiveProblem String :=
  (templateOf argument).map fun template =>
    String.ofList (template.toList.reverse.dropWhile (· == '/')).reverse

/-- A server entry. -/
def serverOf (argument : String) : Except DirectiveProblem Server :=
  match Server.parse argument with
  | .ok server => .ok server
  | .error e => .error (.badServer e)

/-! ## Links -/

/-- The link that reads its whole argument and puts the value into the accumulator. -/
def Link.single {α β : Type} (keyword : String) (read : String → Except DirectiveProblem β)
    (put : β → α → α) : Link α where
  keyword
  items := oneItem
  update argument := (read argument).map put

/-- The link that reads a list of items and puts each into the accumulator. -/
def Link.list {α β : Type} (keyword : String) (read : String → Except DirectiveProblem β)
    (put : β → α → α) : Link α where
  keyword
  items := listItems
  update item := (read item).map put

/-- Links for directives about the document, on any accumulator that holds them. -/
def documentLinks {α : Type} (onDocument : (DocumentDirectives → DocumentDirectives) → α → α)
    (putSummary putDescription : String → α → α) : List (Link α) :=
  [ .single "version" .ok fun v => onDocument fun d => { d with version := some v },
    .single "title" .ok fun t => onDocument fun d => { d with title := some t },
    .single "summary" .ok putSummary,
    .single "servers" serverOf fun s =>
      onDocument fun d => { d with servers := pushServer d.servers s },
    .single "description" .ok putDescription ]

/-- The links for a trait. -/
def documentChain : List (Link DocumentDirectives) :=
  documentLinks (fun change d => change d)
    (fun s d => { d with summary := some s }) (fun s d => { d with description := some s })

/-- The links for a method, those about the response first. -/
def methodChain : List (Link MethodDirectives) :=
  [ .single "response-status" statusOf fun s m => { m with responseStatus := some s },
    .single "response-header" responseHeaderOf fun h m =>
      { m with responseHeaders := m.responseHeaders ++ [h] },
    .single "response-content-type" mediaTypeOf fun t m =>
      { m with responseContentType := some t },
    .single "response-content-encoding" contentCodingOf fun e m =>
      { m with responseContentEncoding := some e },
    .single "response-json-tag" (jsonTagOf "response-json-tag") fun t m =>
      { m with responseJsonTags := m.responseJsonTags.insert t.1 t.2 },
    .single "response-body" responseBodyOf fun b m => { m with responseBody := some b },
    .list "errors" errorStatusOf fun e m => { m with errors := m.errors.insert e.1 e.2 },
    .single "uri-path" templateOf fun p m => { m with uriPath := some p },
    .list "query" queryOf fun q m => { m with queries := m.queries ++ [q] },
    .single "method" verbOf fun v m => { m with verb := some v },
    .single "header" headerOf fun h m => { m with headers := m.headers ++ [h] },
    .single "content-type" mediaTypeOf fun t m => { m with contentType := some t },
    .single "json-tag" (jsonTagOf "json-tag") fun t m =>
      { m with jsonTags := m.jsonTags.insert t.1 t.2 },
    .single "api-path" pathPrefixOf fun p m => { m with apiPath := some p } ] ++
  documentLinks (fun change m => { m with document := change m.document })
    (fun s m => { m with summary := some s }) (fun s m => { m with description := some s })

/-- The directives of a trait's doc comment. -/
def DocumentDirectives.parse (marker : String) (lines : List String) :
    Except DirectiveError DocumentDirectives :=
  collectFrom documentChain marker {} lines

/-- The directives of a method's doc comment. -/
def MethodDirectives.parse (marker : String) (lines : List String) :
    Except DirectiveError MethodDirectives :=
  collectFrom methodChain marker {} lines

end TransportGen
