import TransportGen.Text.Blank
import TransportGen.Text.Pattern

/-!
# API servers

An entry of a server list is written `url = description`, or as the URL alone. Lists keep one entry
per URL, in the order in which URLs first occur, with the description given last.
-/

namespace TransportGen

/-- A server of the API, with an empty description where none is given. -/
structure Server where
  url : String
  description : String
  deriving DecidableEq, Repr, Inhabited

/-- Adds a server at the end of a list, or gives an entry with its URL the new description. -/
def pushServer (servers : List Server) (server : Server) : List Server :=
  match servers with
  | [] => [server]
  | s :: rest =>
    if s.url = server.url then { s with description := server.description } :: rest
    else s :: pushServer rest server

/-- A text that is no server entry. -/
structure ServerError where
  entry : String
  deriving DecidableEq, Repr

/-- The wording of a server error. -/
def ServerError.message (e : ServerError) : String := "`" ++ e.entry ++ "` is not `url = description`"

/-- Reads a server entry. The separator is an equals sign between spaces, so a bare one is part of
the URL. -/
def Server.parse (entry : String) : Except ServerError Server :=
  let (url, description) := match Text.splitAt? " = ".toList entry.toList with
    | some (url, description) => (Text.trim url, Text.trim description)
    | none => (Text.trim entry.toList, [])
  if url.isEmpty || url.any Text.isBlank then .error ⟨entry⟩
  else .ok ⟨String.ofList url, String.ofList description⟩

/-- Adds entries to a list of servers, up to a first one that cannot be read. -/
def pushEntries (servers : List Server) : List String → Except ServerError (List Server)
  | [] => .ok servers
  | entry :: rest =>
    match Server.parse entry with
    | .ok server => pushEntries (pushServer servers server) rest
    | .error e => .error e

/-- The entries of a server list: its lines, trimmed, without blank ones. A line may also be ended
by the two characters `\n` or the four characters `\r\n`. -/
def serverEntries (raw : String) : List String :=
  let text := Text.replace "\\n".toList ['\n'] (Text.replace "\\r\\n".toList ['\n'] raw.toList)
  (((Text.lines text).map Text.trim).filter (! ·.isEmpty)).map String.ofList

/-- Reads a server list. -/
def Server.parseList (raw : String) : Except ServerError (List Server) :=
  pushEntries [] (serverEntries raw)

end TransportGen
