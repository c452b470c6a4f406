import TransportGen.Text.Blank
import TransportGen.Text.Letter
import TransportGen.Text.Pattern

/-!
# Words of HTTP

Request methods, header names and status codes, as far as a contract speaks of them.
-/

namespace TransportGen

/-- A request method. -/
inductive Verb where
  | get
  | post
  | put
  | patch
  | delete
  | head
  | options
  | trace
  deriving DecidableEq, Repr

/-- Every request method. -/
def Verb.all : List Verb := [.get, .post, .put, .patch, .delete, .head, .options, .trace]

/-- The word that stands for a method in a request. -/
def Verb.name : Verb → String
  | .get => "GET"
  | .post => "POST"
  | .put => "PUT"
  | .patch => "PATCH"
  | .delete => "DELETE"
  | .head => "HEAD"
  | .options => "OPTIONS"
  | .trace => "TRACE"

/-- The method with a given word. -/
def Verb.ofName? (name : String) : Option Verb := Verb.all.find? (·.name == name)

/-- The key of a method in the API document. -/
def Verb.key : Verb → String
  | .get => "get"
  | .post => "post"
  | .put => "put"
  | .patch => "patch"
  | .delete => "delete"
  | .head => "head"
  | .options => "options"
  | .trace => "trace"

/-- A character of a header name. -/
def isHeaderChar (c : Char) : Bool := c.isAlphanum || "!#$%&'*+-.^_\x60|~".toList.contains c

/-- A header name has from 1 to 65535 characters, each one that header names admit. -/
def isHeaderName (name : String) : Bool :=
  !name.toList.isEmpty && name.toList.all isHeaderChar && name.toList.length ≤ 65535

/-- The value of decimal digits after `value`; nothing else than digits may stand there. -/
def digitsValue? (value : Nat) : List Char → Option Nat
  | [] => some value
  | c :: s => if c.isDigit then digitsValue? (value * 10 + (c.toNat - '0'.toNat)) s else none

/-- The number that a text spells: digits, perhaps after a plus sign, at most `limit`. -/
def number? (limit : Nat) (text : List Char) : Option Nat :=
  let digits := match text with
    | '+' :: rest => rest
    | _ => text
  if digits.isEmpty then none else (digitsValue? 0 digits).filter (· ≤ limit)

/-- A status code between 100 and 599. -/
def statusCode? (text : List Char) : Option Nat :=
  (number? 65535 text).filter fun code => 100 ≤ code && code ≤ 599

/-- The registered phrase of a status code. -/
def reasonPhrase? : Nat → Option String
  | 100 => some "Continue"
  | 101 => some "Switching Protocols"
  | 102 => some "Processing"
  | 103 => some "Early Hints"
  | 200 => some "OK"
  | 201 => some "Created"
  | 202 => some "Accepted"
  | 203 => some "Non Authoritative Information"
  | 204 => some "No Content"
  | 205 => some "Reset Content"
  | 206 => some "Partial Content"
  | 207 => some "Multi-Status"
  | 208 => some "Already Reported"
  | 226 => some "IM Used"
  | 300 => some "Multiple Choices"
  | 301 => some "Moved Permanently"
  | 302 => some "Found"
  | 303 => some "See Other"
  | 304 => some "Not Modified"
  | 305 => some "Use Proxy"
  | 307 => some "Temporary Redirect"
  | 308 => some "Permanent Redirect"
  | 400 => some "Bad Request"
  | 401 => some "Unauthorized"
  | 402 => some "Payment Required"
  | 403 => some "Forbidden"
  | 404 => some "Not Found"
  | 405 => some "Method Not Allowed"
  | 406 => some "Not Acceptable"
  | 407 => some "Proxy Authentication Required"
  | 408 => some "Request Timeout"
  | 409 => some "Conflict"
  | 410 => some "Gone"
  | 411 => some "Length Required"
  | 412 => some "Precondition Failed"
  | 413 => some "Payload Too Large"
  | 414 => some "URI Too Long"
  | 415 => some "Unsupported Media Type"
  | 416 => some "Range Not Satisfiable"
  | 417 => some "Expectation Failed"
  | 418 => some "I'm a teapot"
  | 421 => some "Misdirected Request"
  | 422 => some "Unprocessable Entity"
  | 423 => some "Locked"
  | 424 => some "Failed Dependency"
  | 425 => some "Too Early"
  | 426 => some "Upgrade Required"
  | 428 => some "Precondition Required"
  | 429 => some "Too Many Requests"
  | 431 => some "Request Header Fields Too Large"
  | 451 => some "Unavailable For Legal Reasons"
  | 500 => some "Internal Server Error"
  | 501 => some "Not Implemented"
  | 502 => some "Bad Gateway"
  | 503 => some "Service Unavailable"
  | 504 => some "Gateway Timeout"
  | 505 => some "HTTP Version Not Supported"
  | 506 => some "Variant Also Negotiates"
  | 507 => some "Insufficient Storage"
  | 508 => some "Loop Detected"
  | 510 => some "Not Extended"
  | 511 => some "Network Authentication Required"
  | _ => none

/-- The type and subtype of a media type, in lower case and without parameters. -/
def mediaEssence (contentType : String) : List Char :=
  Text.lowerAscii (Text.trim ((Text.pieces (· == ';') contentType.toList).headD []))

/-- JSON media types are `application/json` and all with the suffix `+json`. -/
def isJsonType (contentType : String) : Bool :=
  let essence := mediaEssence contentType
  essence == "application/json".toList || (Text.stripEnd? "+json".toList essence).isSome

end TransportGen
