import TransportGen.Service.Imports
import TransportGen.SourceFile
import TransportGen.View

/-!
# The server of a service

`httpserver/server.rs` finds the method that a request is for, and `httpserver/transport.rs` decodes
the request, calls the service and encodes the response.
-/

namespace TransportGen.Artifact

open Text (quote)

/-! ## Routing -/

/-- The table of routes of a server or client. -/
def routesItem (summary : String) (methods : List MethodView) : Item :=
  .constant "ROUTES" <|
    ["/// " ++ summary ++ ", as `VERB /path`", "pub const ROUTES: &[&str] = &["] ++
      indent (methods.map fun m => quote m.route ++ ",") ++ ["];"]

/-- The code that answers a request if it is for a method. -/
def dispatch (m : MethodView) : Code :=
  block ("if req.method() == Method::" ++ m.verb.name)
    (block ("if let Some(vars) = match_route(" ++ quote m.path ++ ", &path)")
      ["return super::transport::" ++ m.name ++ "(&self.service, &req, &vars)" ++ m.awaitSuffix ++
        ";"])

/-- The code of the matcher of request paths. -/
def matchRouteCode : Code :=
  "/// Match `path` against a path template, capturing its variables" ::
  block ("fn match_route(template: &'static str, path: &str) -> " ++
      "Option<super::transport::PathVars>")
    (["let mut vars = Vec::new();",
      "let mut actual = path.trim_end_matches('/').split('/');"] ++
    block "for expected in template.trim_end_matches('/').split('/')"
      ("let segment = actual.next()?;" ::
      block ("match expected.strip_prefix('\x7b').and_then(|e| e.strip_suffix('\x7d'))")
        ["Some(name) => vars.push((name, super::transport::percent_decode(segment, false))),",
          "None if expected == segment => \x7b\x7d",
          "None => return None,"]) ++
    block "if actual.next().is_some()" ["return None;"] ++
    ["Some(vars)"])

/-- The items of the routing file. -/
def routingItems (interface : String) (methods : List MethodView) : List Item :=
  let server := interface ++ "Server"
  let asyncness := if methods.any (·.isAsync) then "async " else ""
  [ routesItem ("Routes served by [`" ++ server ++ "`]") methods,
    .type server <|
      ["/// HTTP binding for [`" ++ interface ++ "`]", "///",
        "/// Requests are matched against [`ROUTES`] in declaration order; the first",
        "/// method whose verb and path template fit decodes the request."] ++
      block ("pub struct " ++ server ++ "<S>") ["service: S,"],
    .implementation <|
      block ("impl<S: " ++ interface ++ "> " ++ server ++ "<S>")
        (block "pub fn new(service: S) -> Self" [server ++ " \x7b service \x7d"] ++ [""] ++
        block "pub fn service(&self) -> &S" ["&self.service"] ++
        ["", "/// Dispatch one request"] ++
        block ("pub " ++ asyncness ++
            "fn handle(&self, req: Request<Vec<u8>>) -> Response<Vec<u8>>")
          (["let path = req.uri().path().to_string();"] ++ methods.flatMap dispatch ++
            ["super::transport::not_found(req.method(), &path)"])),
    .function "match_route" matchRouteCode ]

/-! ## Requests and responses -/

/-- The struct that a JSON body is decoded into, or that it is encoded from. -/
def structItem (derived name parameters : String) (fields : List (Option String × String)) :
    Item :=
  .type name <|
    ("#[derive(serde::" ++ derived ++ ")]") ::
    block ("struct " ++ name ++ parameters)
      (fields.flatMap fun (rename, field) => rename.toList ++ [field ++ ","])

/-- The struct of the response body, if the method has one. -/
def responseItems (derived : String) (m : MethodView) : List Item :=
  if m.wireFields.isEmpty then []
  else [structItem derived (responseStruct m.pascal) ""
    (m.wireFields.map fun f => (f.attribute?, f.name ++ ": " ++ f.type))]

/-- Decodes a path variable. -/
def pathStatement (p : ParamView) : Statement where
  code := blockClosing
    ("let " ++ p.name ++ ": " ++ p.ownedType ++ " = match path_var(vars, " ++ p.keyLiteral ++
      ").parse::<" ++ p.ownedType ++ ">()")
    ["Ok(v) => v,",
      "Err(_) => return bad_request(concat!(\"invalid path parameter \", " ++ p.keyLiteral ++
        ")),"] ";"
  locals := ["vars"]
  params := []
  binds := []
  decodes := [p.name]

/-- Decodes a parameter that the function `lookup` finds in the request. -/
def lookupStatement (lookup what : String) (p : ParamView) : Statement where
  code :=
    let start := "let " ++ p.name ++ ": " ++ p.ownedType ++ " = match " ++ lookup ++ "(req, " ++
      p.keyLiteral ++ ")"
    if p.optional then
      blockClosing start
        (blockClosing ("Some(raw) => match raw.parse::<" ++ p.innerType ++ ">()")
          ["Ok(v) => Some(v),",
            "Err(_) => return bad_request(concat!(\"invalid " ++ what ++ " \", " ++ p.keyLiteral ++
              ")),"] "," ++
        ["None => None,"]) ";"
    else
      blockClosing (start ++ ".map(|raw| raw.parse::<" ++ p.ownedType ++ ">())")
        ["Some(Ok(v)) => v,",
          "_ => return bad_request(concat!(\"missing or invalid " ++ what ++ " \", " ++
            p.keyLiteral ++ ")),"] ";"
  locals := ["req"]
  params := []
  binds := []
  decodes := [p.name]

/-- Decodes a JSON body. -/
def jsonBodyStatement (m : MethodView) : Statement where
  code := blockClosing
    ("let body: " ++ requestStruct m.pascal ++ " = match serde_json::from_slice(req.body())")
    ["Ok(body) => body,",
      "Err(e) => return bad_request(&format!(\"invalid request body: \x7be\x7d\")),"] ";"
  locals := ["req"]
  params := []
  binds := ["body"]

/-- Takes a parameter out of the decoded body. -/
def fieldStatement (p : ParamView) : Statement where
  code := ["let " ++ p.name ++ " = body." ++ p.name ++ ";"]
  locals := ["body"]
  params := []
  binds := []
  decodes := [p.name]

/-- Decodes a JSON body and takes its fields apart. -/
def bodyStatements (m : MethodView) : List Statement :=
  if m.bodyParams.isEmpty then [] else jsonBodyStatement m :: m.bodyParams.map fieldStatement

/-- Takes the whole body as a parameter. -/
def rawStatement (p : ParamView) : Statement where
  code :=
    if p.isText then
      blockClosing ("let " ++ p.name ++ " = match String::from_utf8(req.body().clone())")
        ["Ok(text) => text,",
          "Err(_) => return bad_request(\"request body is not valid UTF-8\"),"] ";"
    else ["let " ++ p.name ++ " = req.body().clone();"]
  locals := ["req"]
  params := []
  binds := []
  decodes := [p.name]

/-- Calls the service and encodes what it returns. -/
def callStatement (m : MethodView) : Statement where
  code :=
    let call := "service." ++ m.name ++ "(" ++ m.callArgs ++ ")" ++ m.awaitSuffix
    let encode := "encode_" ++ m.name ++ "_response(value)"
    if m.returnsResult then
      block ("match " ++ call)
        ["Ok(value) => " ++ encode ++ ",", "Err(err) => error_response(&err),"]
    else ["let value = " ++ call ++ ";", encode]
  locals := ["service"]
  params := m.params.map (·.name)
  binds := if m.returnsResult then [] else ["value"]

/-- The statements of the function that handles requests for a method. -/
def handlerStatements (m : MethodView) : List Statement :=
  m.pathParams.map pathStatement ++
    m.queryParams.map (lookupStatement "query_value" "query parameter") ++
    m.headerParams.map (lookupStatement "header_value" "header") ++
    bodyStatements m ++ m.rawParams.map rawStatement ++ [callStatement m]

/-- The function that handles requests for a method. -/
def handlerItem (interface : String) (m : MethodView) : Item :=
  .function m.name <|
    ["/// Decode a `" ++ m.name ++ "` request, call the service and encode the outcome",
      "pub(super) " ++ m.asyncness ++ "fn " ++ m.name ++ "<S: " ++ interface ++ ">("] ++
    indent ["service: &S,", "req: &Request<Vec<u8>>,", "vars: &PathVars,"] ++
    block ") -> Response<Vec<u8>>" (codeOf (handlerStatements m))

/-- The code that sets a header. -/
def setHeader (name value : String) : String :=
  "builder = builder.header(" ++ name ++ ", " ++ value ++ ");"

/-- The function that encodes a success value. -/
def encodeResponseItem (m : MethodView) : Item :=
  .function ("encode_" ++ m.name ++ "_response") <|
    block ("fn encode_" ++ m.name ++ "_response(value: " ++ m.okType ++ ") -> Response<Vec<u8>>")
      (["let mut builder = Response::builder().status(" ++ toString m.status ++ "u16);"] ++
      m.responseHeaders.map (fun h => setHeader h.nameLiteral h.serverExpr) ++
      m.responseContentType.toList.map (fun t => setHeader "header::CONTENT_TYPE" (quote t)) ++
      m.responseContentEncoding.toList.map
        (fun e => setHeader "header::CONTENT_ENCODING" (quote e)) ++
      blockClosing ("let body = match " ++ m.serverBody.expr)
        ["Ok(body) => body,", "Err(message) => return internal_error(&message),"] ";" ++
      ["finish(builder, body)"])

/-- The items for one method. -/
def serverMethodItems (interface : String) (m : MethodView) : List Item :=
  (if m.bodyParams.isEmpty then []
    else [structItem "Deserialize" (requestStruct m.pascal) ""
      (m.bodyParams.map fun p => (p.attribute?, p.name ++ ": " ++ p.ownedType))]) ++
  responseItems "Serialize" m ++ [handlerItem interface m, encodeResponseItem m]

/-- The function that answers with an error of the service, if it has an error type. -/
def errorResponseItems (errorType : String) : List Item :=
  if errorType.isEmpty then []
  else
    [.function "error_response" <|
      "/// Error response carrying only the mapped status and its public message" ::
      block ("fn error_response(err: &" ++ errorType ++ ") -> Response<Vec<u8>>")
        ["let (status, message) = ui::encode(err);", "json_error(status, message)"]]

/-- The functions that all methods share. -/
def serverHelperItems : List Item :=
  [ .function "not_found" <|
      block "pub(super) fn not_found(method: &Method, path: &str) -> Response<Vec<u8>>"
        ["json_error(404, &format!(\"no route for \x7bmethod\x7d \x7bpath\x7d\"))"],
    .function "bad_request" <|
      block "fn bad_request(message: &str) -> Response<Vec<u8>>" ["json_error(400, message)"],
    .function "internal_error" <|
      block "fn internal_error(message: &str) -> Response<Vec<u8>>"
        ["tracing::error!(error = message, \"failed to encode response\");",
          "json_error(500, \"Internal Server Error\")"],
    .function "json_error" <|
      block "fn json_error(status: u16, message: &str) -> Response<Vec<u8>>"
        (["let body = serde_json::json!(\x7b \"error\": message \x7d).to_string().into_bytes();",
          "let builder = Response::builder()"] ++
        indent [".status(status)", ".header(header::CONTENT_TYPE, \"application/json\");"] ++
        ["finish(builder, body)"]),
    .function "finish" <|
      block "fn finish(builder: http::response::Builder, body: Vec<u8>) -> Response<Vec<u8>>"
        (blockClosing "builder.body(body).unwrap_or_else(|_|"
          ["let mut resp = Response::new(Vec::new());",
            "*resp.status_mut() = StatusCode::INTERNAL_SERVER_ERROR;",
            "resp"] ")"),
    .function "path_var" <|
      block "fn path_var<'a>(vars: &'a PathVars, name: &str) -> &'a str"
        ("vars.iter()" ::
        indent [".find(|(k, _)| *k == name)", ".map(|(_, v)| v.as_str())",
          ".unwrap_or_default()"]),
    .function "query_value" <|
      block "fn query_value(req: &Request<Vec<u8>>, key: &str) -> Option<String>"
        (blockClosing "req.uri().query()?.split('&').find_map(|pair|"
          (["let (k, v) = pair.split_once('=').unwrap_or((pair, \"\"));"] ++
          ifElse "percent_decode(k, true) == key" ["Some(percent_decode(v, true))"] ["None"]) ")"),
    .function "header_value" <|
      block "fn header_value(req: &Request<Vec<u8>>, name: &str) -> Option<String>"
        ["req.headers().get(name)?.to_str().ok().map(str::to_string)"],
    .function "percent_decode" <|
      "/// Decode `%XX` escapes; `+` means space only in query strings" ::
      block "pub(super) fn percent_decode(raw: &str, plus_as_space: bool) -> String"
        (["let bytes = raw.as_bytes();", "let mut out = Vec::with_capacity(bytes.len());",
          "let mut i = 0;"] ++
        block "while i < bytes.len()"
          (block "match bytes[i]"
            (block "b'%' if i + 2 < bytes.len() =>"
              ("let hex = std::str::from_utf8(&bytes[i + 1..i + 3])" ::
              indent [".ok()", ".filter(|h| h.bytes().all(|c| c.is_ascii_hexdigit()))",
                ".and_then(|h| u8::from_str_radix(h, 16).ok());"] ++
              block "if let Some(b) = hex" ["out.push(b);", "i += 3;", "continue;"] ++
              ["out.push(b'%');"]) ++
            ["b'+' if plus_as_space => out.push(b' '),", "b => out.push(b),"]) ++
          ["i += 1;"]) ++
        ["String::from_utf8_lossy(&out).into_owned()"]) ]

/-- The items of the decoding and encoding file. -/
def serverTransportItems (interface errorType : String)
    (methods : List MethodView) : List Item :=
  [.type "PathVars"
    ["/// Variables captured from the request path",
      "pub type PathVars = Vec<(&'static str, String)>;", ""]] ++
  methods.flatMap (serverMethodItems interface) ++ errorResponseItems errorType ++
  serverHelperItems

/-- What the files of a server import beside the service's own types. -/
def serverImports : List String :=
  ["http::header", "http::Method", "http::Request", "http::Response", "http::StatusCode",
    "super::super::httperrors::ui"]

/-- The files of a server. -/
def serverFiles (s : ServiceSpec) : List SourceFile :=
  let imports := addPaths s.imports serverImports
  let server := s.interfaceName ++ "Server"
  [ moduleFile ["httpserver", "mod.rs"]
      ("HTTP server binding for `" ++ s.interfaceName ++ "`")
      [⟨"server", false⟩, ⟨"transport", false⟩] ["server::\x7b" ++ server ++ ", ROUTES\x7d"],
    { path := ["httpserver", "server.rs"]
      doc := "Request routing"
      imports
      items := routingItems s.interfaceName s.views },
    { path := ["httpserver", "transport.rs"]
      doc := "Request decoding and response encoding"
      imports
      items := serverTransportItems s.interfaceName (s.errorType.getD "") s.views } ]

end TransportGen.Artifact
