import TransportGen.Document.Basic
import TransportGen.Json.Print
import TransportGen.Json.Read
import TransportGen.Yaml.Print

/-!
# The document as text

A document is written as JSON or YAML and read from JSON. In a text that is read, a record is an
object whose fields may come in any order, each at most once, and unknown ones are passed over; or it
is an array of the fields in their order. Fields that are left out when empty may be missing.
-/

namespace TransportGen

/-- The text of a document. -/
def ApiDocument.serialize (format : DocumentFormat) (d : ApiDocument) : String :=
  match format with
  | .json => d.toJson.print
  | .yaml => Yaml.print d.toJson

namespace JsonText

/-- The known fields of an object, none of them twice. -/
def knownFields? (names : List String) :
    List (Option String × JsonText) → Option (List (String × JsonText))
  | [] => some []
  | (none, _) :: _ => none
  | (some name, value) :: rest =>
    if names.contains name then
      match knownFields? names rest with
      | some fields => if (fields.lookup name).isSome then none else some ((name, value) :: fields)
      | none => none
    else knownFields? names rest

/-- The fields of a record. -/
def record? (depth : Nat) (names : List String) (text : JsonText) :
    Option (List (String × JsonText)) :=
  if depthBound ≤ depth then none
  else match text with
    | object fields => knownFields? names fields
    | array items => if items.length ≤ names.length then some (names.zip items) else none
    | _ => none

/-- The entries of a map; of two with one key the later is kept. -/
def table? {α : Type} (depth : Nat) (value? : Nat → JsonText → Option α) :
    JsonText → Option (Table String α)
  | object fields =>
    if depthBound ≤ depth then none
    else (fields.mapM fun (field : Option String × JsonText) => do
      let name ← field.1
      let value ← value? (depth + 1) field.2
      pure (name, value)).map Table.ofList
  | _ => none

/-- The items of an array. -/
def list? {α : Type} (depth : Nat) (value? : Nat → JsonText → Option α) :
    JsonText → Option (List α)
  | array items => if depthBound ≤ depth then none else items.mapM (value? (depth + 1))
  | _ => none

/-- A string. -/
def text? : JsonText → Option String
  | string value => value
  | _ => none

/-- A truth value. -/
def bool? : JsonText → Option Bool
  | bool value => some value
  | _ => none

/-- A value, or nothing for null. -/
def optional? {α : Type} (value? : JsonText → Option α) : JsonText → Option (Option α)
  | null => some none
  | text => (value? text).map some

/-- A field, or what stands for it where it is missing. -/
def fieldOr? {α : Type} (fields : List (String × JsonText)) (name : String) (default : α)
    (value? : JsonText → Option α) : Option α :=
  match fields.lookup name with
  | some text => value? text
  | none => some default

/-- A field that has to be there. -/
def field? {α : Type} (fields : List (String × JsonText)) (name : String)
    (value? : JsonText → Option α) : Option α := (fields.lookup name).bind value?

/-- The schema of a record that holds nothing else. -/
def schemaHolder? (depth : Nat) (text : JsonText) : Option JsonValue := do
  let fields ← record? depth ["schema"] text
  field? fields "schema" (toValue? (depth + 1))

/-- A server. -/
def server? (depth : Nat) (text : JsonText) : Option Server := do
  let fields ← record? depth ["url", "description"] text
  let url ← field? fields "url" text?
  let description ← fieldOr? fields "description" "" text?
  pure ⟨url, description⟩

/-- The info of a document. -/
def info? (depth : Nat) (text : JsonText) : Option ApiInfo := do
  let fields ← record? depth ["title", "version", "summary", "description"] text
  let title ← field? fields "title" text?
  let version ← field? fields "version" text?
  let summary ← fieldOr? fields "summary" none (optional? text?)
  let description ← fieldOr? fields "description" "" text?
  pure ⟨title, version, summary, description⟩

/-- A parameter. -/
def parameter? (depth : Nat) (text : JsonText) : Option ApiParameter := do
  let fields ← record? depth ["name", "in", "required", "schema"] text
  let name ← field? fields "name" text?
  let location ← field? fields "in" text?
  let required ← field? fields "required" bool?
  let schema ← field? fields "schema" (toValue? (depth + 1))
  pure ⟨name, location, required, schema⟩

/-- The body of a request. -/
def requestBody? (depth : Nat) (text : JsonText) : Option ApiRequestBody := do
  let fields ← record? depth ["required", "content"] text
  let required ← field? fields "required" bool?
  let content ← field? fields "content" (table? (depth + 1) schemaHolder?)
  pure ⟨required, content⟩

/-- A response. -/
def response? (depth : Nat) (text : JsonText) : Option ApiResponse := do
  let fields ← record? depth ["description", "headers", "content"] text
  let description ← field? fields "description" text?
  let headers ← fieldOr? fields "headers" ∅ (table? (depth + 1) schemaHolder?)
  let content ← fieldOr? fields "content" ∅ (table? (depth + 1) schemaHolder?)
  pure ⟨description, headers, content⟩

/-- An operation. -/
def operation? (depth : Nat) (text : JsonText) : Option ApiOperation := do
  let fields ← record? depth ["operationId", "tags", "summary", "description", "parameters",
    "requestBody", "responses"] text
  let operationId ← field? fields "operationId" text?
  let tags ← fieldOr? fields "tags" [] (list? (depth + 1) fun _ => text?)
  let summary ← fieldOr? fields "summary" none (optional? text?)
  let description ← fieldOr? fields "description" none (optional? text?)
  let parameters ← fieldOr? fields "parameters" [] (list? (depth + 1) parameter?)
  let requestBody ← fieldOr? fields "requestBody" none (optional? (requestBody? (depth + 1)))
  let responses ← field? fields "responses" (table? (depth + 1) response?)
  pure ⟨operationId, tags, summary, description, parameters, requestBody, responses⟩

/-- A document. -/
def document? (depth : Nat) (text : JsonText) : Option ApiDocument := do
  let fields ← record? depth ["openapi", "info", "servers", "paths"] text
  let openapi ← field? fields "openapi" text?
  let info ← field? fields "info" (info? (depth + 1))
  let servers ← fieldOr? fields "servers" [] (list? (depth + 1) server?)
  let paths ← field? fields "paths" (table? (depth + 1) fun depth => table? depth operation?)
  pure ⟨openapi, info, servers, paths⟩

end JsonText

/-- Reads a document from its JSON text. -/
def ApiDocument.parse? (text : String) : Option ApiDocument :=
  (JsonText.parse? text).bind (JsonText.document? 0)

end TransportGen
