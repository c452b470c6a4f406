import TransportGen.Artifact.Server

/-!
# The client of a service

`httpclient/client.rs` implements the trait over a transport, and `httpclient/transport.rs` encodes
requests and decodes responses. A plain and a secure client differ in the scheme alone.
-/

namespace TransportGen.Artifact

open Text (quote)

/-! ## Calls -/

/-- The method of the client that makes a call. -/
def callMethod (errorType : String) (m : MethodView) : Code :=
  block m.signature
    (["let req = super::transport::encode_" ++ m.name ++ "_request(&self.base_url" ++
        m.forwardCall ++ ")"] ++
    indent [".map_err(" ++ errorType ++ "::from)?;"] ++
    ["let resp = self.transport.send(req).map_err(" ++ errorType ++ "::from)?;",
      "super::transport::decode_" ++ m.name ++ "_response(resp)"])

/-- The items of the client file. -/
def clientItems (interface scheme errorType : String) (methods : List MethodView) : List Item :=
  let client := interface ++ "Client"
  [ ⟨.use "super::transport::HttpTransport", false, ["use super::transport::HttpTransport;"]⟩,
    routesItem ("Routes called by [`" ++ client ++ "`]") methods,
    .constant "SCHEME" ["const SCHEME: &str = \"" ++ scheme ++ "\";"],
    .type client <|
      ["/// HTTP client for [`" ++ interface ++ "`]", "///",
        "/// Every call is encoded, sent through the [`HttpTransport`] and decoded back",
        "/// into the service types. `" ++ errorType ++ "` must implement `From<ClientError>`",
        "/// so transport and decoding failures surface as service errors."] ++
      block ("pub struct " ++ client ++ "<T>") ["base_url: String,", "transport: T,"],
    .implementation <|
      block ("impl<T: HttpTransport> " ++ client ++ "<T>")
        (["/// `host` is `name[:port]` without a scheme"] ++
        block "pub fn new(host: &str, transport: T) -> Self"
          (block client
            ["base_url: format!(\"\x7bSCHEME\x7d://\x7b\x7d\", host.trim_end_matches('/')),",
              "transport,"]) ++
        [""] ++ block "pub fn base_url(&self) -> &str" ["&self.base_url"]),
    .implementation <|
      block ("impl<T: HttpTransport> " ++ interface ++ " for " ++ client ++ "<T>")
        (methods.flatMap (callMethod errorType)) ]

/-! ## Requests -/

/-- Appends a piece of the path to the URL. -/
def urlStatement (piece : UrlPiece) : Statement where
  code := [piece.code]
  locals := ["url"]
  params := match piece with
    | .literal _ => []
    | .variable name => [name]
  binds := []

/-- Encodes a query parameter. -/
def queryStatement (p : ParamView) : Statement where
  code :=
    if p.optional then
      block ("if let Some(v) = &" ++ p.name) ["query.push((" ++ p.keyLiteral ++ ", v.to_string()));"]
    else ["query.push((" ++ p.keyLiteral ++ ", " ++ p.name ++ ".to_string()));"]
  locals := ["query"]
  params := [p.name]
  binds := []

/-- Encodes a header parameter. -/
def headerStatement (p : ParamView) : Statement where
  code :=
    if p.optional then
      block ("if let Some(v) = &" ++ p.name) [setHeader p.keyLiteral "v.to_string()"]
    else [setHeader p.keyLiteral (p.name ++ ".to_string()")]
  locals := ["builder"]
  params := [p.name]
  binds := []

/-- Sets the content type of the request. -/
def contentTypeStatement (m : MethodView) : Statement where
  code := [setHeader "header::CONTENT_TYPE" (quote m.requestContentType)]
  locals := ["builder"]
  params := []
  binds := []

/-- Builds the JSON object that is the body of a request. -/
def jsonObjectStatement (m : MethodView) : Statement where
  code := blockClosing ("let body = " ++ requestStruct m.pascal)
    (m.bodyParams.map fun p => p.name ++ ": " ++ p.borrowExpr ++ ",") ";"
  locals := []
  params := m.bodyParams.map (·.name)
  binds := ["body"]

/-- Writes that object out. -/
def jsonBytesStatement : Statement where
  code := ["let bytes = serde_json::to_vec(&body).map_err(|e| " ++
    "ClientError::Encode(e.to_string()))?;"]
  locals := ["body"]
  params := []
  binds := ["bytes"]

/-- Takes the bytes of the parameter that is the body. -/
def rawBytesStatement (p : ParamView) : Statement where
  code := ["let bytes = AsRef::<[u8]>::as_ref(&" ++ p.name ++ ").to_vec();"]
  locals := []
  params := [p.name]
  binds := ["bytes"]

/-- Leaves the body empty. -/
def noBytesStatement : Statement where
  code := ["let bytes = Vec::new();"]
  locals := []
  params := []
  binds := ["bytes"]

/-- Encodes the body of a request: a JSON object, the one parameter that is the body, or nothing. -/
def requestBodyStatements (m : MethodView) : List Statement :=
  (if m.bodyParams.isEmpty then []
    else [jsonObjectStatement m, jsonBytesStatement, contentTypeStatement m]) ++
  m.rawParams.flatMap (fun p => [rawBytesStatement p, contentTypeStatement m]) ++
  (if m.bodyParams.isEmpty && m.rawParams.isEmpty then [noBytesStatement] else [])

/-- The statements of the function that encodes a request. -/
def encodeStatements (m : MethodView) : List Statement :=
  [{ code := ["let mut url = String::from(base_url);"]
     locals := ["base_url"]
     params := []
     binds := ["url"] }] ++
  m.urlPieces.map urlStatement ++
  [{ code := ["let mut query: Vec<(&str, String)> = Vec::new();"]
     locals := []
     params := []
     binds := ["query"] }] ++
  m.queryParams.map queryStatement ++
  [ { code := ["append_query(&mut url, &query);"]
      locals := ["url", "query"]
      params := []
      binds := [] },
    { code := ["let mut builder = Request::builder().method(Method::" ++ m.verb.name ++
        ").uri(url);"]
      locals := ["url"]
      params := []
      binds := ["builder"] } ] ++
  m.headerParams.map headerStatement ++ requestBodyStatements m ++
  [{ code := "builder" ::
       indent [".body(bytes)", ".map_err(|e| ClientError::Transport(e.to_string()))"]
     locals := ["builder", "bytes"]
     params := []
     binds := [] }]

/-- The function that encodes a request. -/
def encodeRequestItem (m : MethodView) : Item :=
  .function ("encode_" ++ m.name ++ "_request") <|
    block ("pub(super) fn encode_" ++ m.name ++ "_request(base_url: &str" ++ m.typedParams ++
        ") -> Result<Request<Vec<u8>>, ClientError>")
      (codeOf (encodeStatements m))

/-- The function that decodes a response. -/
def decodeResponseItem (m : MethodView) : Item :=
  .function ("decode_" ++ m.name ++ "_response") <|
    block ("pub(super) fn decode_" ++ m.name ++ "_response(resp: Response<Vec<u8>>) -> " ++
        m.returnType)
      (block "if !resp.status().is_success()"
        ["return Err(decode_error(resp.status().as_u16(), resp.body()));"] ++
      m.clientSteps.map ClientStep.code ++ ["Ok(value)"])

/-- The items for one method. -/
def clientMethodItems (m : MethodView) : List Item :=
  (if m.bodyParams.isEmpty then []
    else [structItem "Serialize" (requestStruct m.pascal) "<'a>"
      (m.bodyParams.map fun p => (p.attribute?, p.name ++ ": " ++ p.borrowedType))]) ++
  responseItems "Deserialize" m ++ [encodeRequestItem m, decodeResponseItem m]

/-- The head of the function that sends a request. -/
def sendHead : String :=
  "fn send(&self, req: Request<Vec<u8>>) -> Result<Response<Vec<u8>>, ClientError>"

/-- The functions that all methods share. -/
def clientHelperItems (errorType : String) : List Item :=
  [ .function "decode_error" <|
      block ("fn decode_error(status: u16, body: &[u8]) -> " ++ errorType)
        (block "match errors::decode(status, body)"
          ["Ok(err) => err,", "Err(unmapped) => " ++ errorType ++ "::from(unmapped),"]),
    .function "append_query" <|
      block "fn append_query(url: &mut String, pairs: &[(&str, String)])"
        (block "for (i, (key, value)) in pairs.iter().enumerate()"
          ["url.push(if i == 0 \x7b '?' \x7d else \x7b '&' \x7d);",
            "url.push_str(&percent_encode(key));", "url.push('=');",
            "url.push_str(&percent_encode(value));"]),
    .function "percent_encode" <|
      "/// Escape everything but RFC 3986 unreserved characters" ::
      block "fn percent_encode(raw: &str) -> String"
        (["let mut out = String::with_capacity(raw.len());"] ++
        block "for b in raw.bytes()"
          (ifElse "b.is_ascii_alphanumeric() || matches!(b, b'-' | b'.' | b'_' | b'~')"
            ["out.push(char::from(b));"] ["out.push_str(&format!(\"%\x7bb:02X\x7d\"));"]) ++
        ["out"]) ]

/-- The items of the encoding and decoding file. -/
def clientTransportItems (errorType : String) (methods : List MethodView) : List Item :=
  [ .type "HttpTransport" <|
      "/// Sends one request and returns the response, whatever its status" ::
      block "pub trait HttpTransport" [sendHead ++ ";"],
    .implementation <|
      block "impl<T: HttpTransport + ?Sized> HttpTransport for &T"
        (block sendHead ["(**self).send(req)"]) ++ [""] ] ++
  methods.flatMap clientMethodItems ++ clientHelperItems errorType

/-! ## Files -/

/-- What the files of a client import beside the service's own types. -/
def clientImports : List String :=
  ["http::header", "http::Method", "http::Request", "http::Response",
    "super::super::httperrors::client::ClientError",
    "super::super::httperrors::client as errors"]

/-- The files of a client that puts a scheme before the name of its host. -/
def clientFiles (scheme : String) (s : ServiceSpec) : List SourceFile :=
  let imports := addPaths s.imports clientImports
  let client := s.interfaceName ++ "Client"
  let errorType := s.errorType.getD ""
  [ moduleFile ["httpclient", "mod.rs"] ("HTTP client for `" ++ s.interfaceName ++ "`")
      [⟨"client", false⟩, ⟨"transport", false⟩]
      ["client::\x7b" ++ client ++ ", ROUTES\x7d", "transport::HttpTransport"],
    { path := ["httpclient", "client.rs"]
      doc := ""
      imports
      items := clientItems s.interfaceName scheme errorType s.views },
    { path := ["httpclient", "transport.rs"]
      doc := "Request encoding and response decoding"
      imports
      items := clientTransportItems errorType s.views } ]

end TransportGen.Artifact
