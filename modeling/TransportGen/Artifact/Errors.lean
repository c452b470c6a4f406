import TransportGen.Service.Imports
import TransportGen.SourceFile
import TransportGen.View

/-!
# The error mapping of a service

`httperrors/ui.rs` gives an error its status, and `httperrors/client.rs` gives a status its error
back where that is possible.
-/

namespace TransportGen.Artifact

open Text (quote)

/-- A variant and its status. -/
structure ErrorMapping where
  variant : String
  status : Nat
  deriving DecidableEq, Repr

/-- The message for callers: the phrase of the status. -/
def ErrorMapping.message (e : ErrorMapping) : String := (reasonPhrase? e.status).getD "Error"

/-- Every mapped variant: in the order of the enumeration where it is known, and by name
otherwise. -/
def serverMappings (s : ServiceSpec) : List ErrorMapping :=
  let statuses := s.errorStatuses
  match s.errorVariants with
  | some variants => variants.filterMap fun v => (statuses.get? v.name).map (ErrorMapping.mk v.name)
  | none => statuses.entries.map fun entry => ⟨entry.1, entry.2⟩

/-- The first mapping of each status that is not among those `seen`. -/
def firstPerStatus (seen : List Nat) : List ErrorMapping → List ErrorMapping
  | [] => []
  | e :: rest =>
    if seen.contains e.status then firstPerStatus seen rest
    else e :: firstPerStatus (e.status :: seen) rest

/-- The variant that each status decodes to: the first one without fields. Nothing is decoded where
the enumeration is not known. -/
def clientMappings (s : ServiceSpec) : List ErrorMapping :=
  let statuses := s.errorStatuses
  firstPerStatus [] <|
    ((s.errorVariants.getD []).filter (·.isUnit)).filterMap fun v =>
      (statuses.get? v.name).map (ErrorMapping.mk v.name)

/-- The items of the file that encodes errors. -/
def encodeErrorItems (errorType : String) (mappings : List ErrorMapping) : List Item :=
  [ ⟨.constant "UNMAPPED", false,
      ["/// Answer for errors without a status mapping",
        "pub const UNMAPPED: (u16, &str) = (500, \"Internal Server Error\");"]⟩,
    .function "encode" <|
      ["/// Status code and caller-safe message for an error", "///",
        "/// Only the status and its canonical reason leave the server; unmapped errors",
        "/// become an opaque [`UNMAPPED`]."] ++
      if errorType.isEmpty then
        block "pub fn encode<E>(_err: &E) -> (u16, &'static str)" ["UNMAPPED"]
      else
        block ("pub fn encode(err: &" ++ errorType ++ ") -> (u16, &'static str)")
          (block "match err"
            (mappings.map (fun e =>
              errorType ++ "::" ++ e.variant ++ " \x7b .. \x7d => (" ++ toString e.status ++ ", " ++
                quote e.message ++ "),") ++
            ["_ => UNMAPPED,"])) ]

/-- The function that decodes errors, if there is an error type. -/
def decodeItems (errorType : String) (mappings : List ErrorMapping) : List Item :=
  if errorType.isEmpty then []
  else
    [.function "decode" <|
      ["/// Typed error for a failed response", "///",
        "/// A status mapped to a fieldless variant decodes to it; anything else comes",
        "/// back as [`ClientError::Status`]."] ++
      block ("pub fn decode(status: u16, body: &[u8]) -> Result<" ++ errorType ++ ", ClientError>")
        (block "match status"
          (mappings.map (fun e =>
            toString e.status ++ " => Ok(" ++ errorType ++ "::" ++ e.variant ++ "),") ++
          blockClosing "_ => Err(ClientError::Status"
            ["status,", "body: String::from_utf8_lossy(body).into_owned(),"] "),"))]

/-- The items of the file that decodes errors. -/
def decodeErrorItems (errorType : String) (mappings : List ErrorMapping) : List Item :=
  [ ⟨.type "ClientError", false,
      ["/// Failure of a generated client call outside the service's own errors",
        "#[derive(Debug, Clone, PartialEq, Eq)]"] ++
      block "pub enum ClientError"
        ["/// The request could not be built or sent", "Transport(String),",
          "/// A request body could not be encoded", "Encode(String),",
          "/// A response body could not be decoded", "Decode(String),",
          "/// The server answered with a status no fieldless error variant maps to",
          "Status \x7b status: u16, body: String \x7d,"]⟩,
    .implementation <|
      block "impl std::fmt::Display for ClientError"
        (block "fn fmt(&self, f: &mut std::fmt::Formatter<'_>) -> std::fmt::Result"
          (block "match self"
            ["ClientError::Transport(msg) => write!(f, \"transport error: \x7bmsg\x7d\"),",
              "ClientError::Encode(msg) => write!(f, \"cannot encode request: \x7bmsg\x7d\"),",
              "ClientError::Decode(msg) => write!(f, \"cannot decode response: \x7bmsg\x7d\"),",
              "ClientError::Status \x7b status, body \x7d => write!(f, " ++
                "\"unexpected status \x7bstatus\x7d: \x7bbody\x7d\"),"])),
    .implementation ["impl std::error::Error for ClientError \x7b\x7d"] ] ++
  decodeItems errorType mappings

/-- The files of an error mapping. -/
def errorFiles (s : ServiceSpec) : List SourceFile :=
  [ moduleFile ["httperrors", "mod.rs"] ("HTTP error mapping for `" ++ s.interfaceName ++ "`")
      [⟨"client", true⟩, ⟨"ui", true⟩] ["client::ClientError"],
    { path := ["httperrors", "ui.rs"]
      doc := "Errors as seen by HTTP callers"
      imports := addPaths [] s.imports
      items := encodeErrorItems (s.errorType.getD "") (serverMappings s) },
    { path := ["httperrors", "client.rs"]
      doc := "Errors decoded from HTTP responses"
      imports := addPaths [] s.imports
      items := decodeErrorItems (s.errorType.getD "") (clientMappings s) } ]

end TransportGen.Artifact
