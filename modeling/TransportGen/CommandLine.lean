import TransportGen.Config
import TransportGen.Generation

/-!
# The command line

The arguments of a call are read from the left. An option with a value takes it after an equals sign
or from the next argument, unless that looks like an option itself; whether the value is a right one
is settled when the next option comes, or at the end.
-/

namespace TransportGen

/-- Why arguments are no command. Asking for help or for the version ends the reading, too. -/
inductive UsageError where
  | noArguments
  | help
  | version
  | unknownCommand
  | unknownArgument
  /-- An option lacks its value, or a path is empty. -/
  | missingValue
  /-- An option that takes no value is given one. -/
  | unwantedValue
  /-- An option is given twice, or with one that excludes it. -/
  | conflict
  deriving DecidableEq, Repr

/-- The wording of a usage error. -/
def UsageError.message : UsageError → String
  | .noArguments => "a command is required: generate or inspect"
  | .help => "usage: gtg generate [--in <DIR>] [--swagger <DIR>] [--json | --yaml] [--title <TEXT>] " ++
      "[--desc <TEXT>] [--version <TEXT>] [--servers <LIST>] [--config <FILE>] [--dry-run]\n" ++
      "       gtg inspect [--in <DIR>]"
  | .version => "gtg 0.1.0-alpha.1"
  | .unknownCommand => "unrecognized command"
  | .unknownArgument => "unexpected argument"
  | .missingValue => "a value is required"
  | .unwantedValue => "unexpected value for an option"
  | .conflict => "the arguments cannot be used together"

/-! ## Options -/

/-- What an option takes. -/
inductive OptionKind where
  | flag
  | text
  /-- A path, which is not empty. -/
  | path
  deriving DecidableEq, Repr

/-- The options of a command, by their names. -/
abbrev OptionTable := List (String × OptionKind)

/-- Options that were given, with their values, and the one that is not settled yet. -/
structure Reading where
  given : List (String × String) := []
  /-- An option and its value, if that has come. -/
  pending : Option (String × OptionKind × Option String) := none

namespace Reading

/-- Settles an option with its value, if that has come. -/
def settle (r : Reading) (name : String) (kind : OptionKind) (value : Option String) :
    Except UsageError Reading :=
  match value with
  | none => .error .missingValue
  | some value =>
    if r.given.any fun (other, _) => other == name then .error .conflict
    else if kind == .path && value.isEmpty then .error .missingValue
    else .ok ⟨r.given ++ [(name, value)], none⟩

/-- Settles the option that is not settled yet. -/
def finish (r : Reading) : Except UsageError Reading :=
  match r.pending with
  | some (name, kind, value) => r.settle name kind value
  | none => .ok r

/-- Reads an option with what stands after its equals sign, if there is one. -/
def option (table : OptionTable) (r : Reading) (name : String) (attached : Option String) :
    Except UsageError Reading := do
  match table.lookup name, attached with
  | none, none =>
    if name == "help" then
      discard r.finish
      throw .help
    else throw .unknownArgument
  | none, some _ => throw (if name == "help" then .unwantedValue else .unknownArgument)
  | some .flag, some _ => throw .unwantedValue
  | some .flag, none => (← r.finish).settle name .flag (some "")
  | some kind, some value => (← r.finish).settle name kind (some value)
  | some kind, none => pure { ← r.finish with pending := some (name, kind, none) }

end Reading

/-- The name of an option after its dashes, and what stands after an equals sign. -/
def splitOption (text : List Char) : String × Option String :=
  match Text.splitAt? ['='] text with
  | some (name, value) => (String.ofList name, some (String.ofList value))
  | none => (String.ofList text, none)

/-- Reads the arguments of a command. -/
def Reading.arguments (table : OptionTable) (r : Reading) :
    List String → Except UsageError Reading
  | [] => r.finish
  | argument :: rest => do
    match argument.toList with
    | ['-', '-'] => if rest.isEmpty then r.finish else throw .unknownArgument
    | '-' :: '-' :: text =>
      let (name, attached) := splitOption text
      Reading.arguments table (← r.option table name attached) rest
    | '-' :: c :: _ =>
      if c == 'h' then
        discard r.finish
        throw .help
      else throw .unknownArgument
    | _ =>
      match r.pending with
      | some (name, kind, none) =>
        Reading.arguments table { r with pending := some (name, kind, some argument) } rest
      | _ => throw .unknownArgument

/-! ## Commands -/

/-- The arguments of `generate`. -/
structure GenerateArguments where
  input : FilePath := ⟨"./src"⟩
  /-- The directory of the API document. -/
  documentDir : Option FilePath := none
  json : Bool := false
  yaml : Bool := false
  title : Option String := none
  description : Option String := none
  version : Option String := none
  servers : Option String := none
  config : Option FilePath := none
  dryRun : Bool := false
  deriving DecidableEq, Repr

/-- A command. -/
inductive Command where
  | generate (arguments : GenerateArguments)
  | inspect (input : FilePath)
  deriving DecidableEq, Repr

/-- The options of `generate`. -/
def generateOptions : OptionTable :=
  [("in", .path), ("swagger", .path), ("json", .flag), ("yaml", .flag), ("title", .text),
    ("desc", .text), ("version", .text), ("servers", .text), ("config", .path),
    ("dry-run", .flag)]

/-- The options of `inspect`. -/
def inspectOptions : OptionTable := [("in", .path)]

namespace Command

/-- Reads the arguments of `generate`. -/
def parseGenerate (arguments : List String) : Except UsageError Command := do
  let given := (← Reading.arguments generateOptions {} arguments).given
  let text (name : String) := given.lookup name
  let path (name : String) := (text name).map FilePath.mk
  let flag (name : String) := (text name).isSome
  if flag "json" && flag "yaml" then throw .conflict
  pure <| .generate {
    input := (path "in").getD ⟨"./src"⟩
    documentDir := path "swagger"
    json := flag "json"
    yaml := flag "yaml"
    title := text "title"
    description := text "desc"
    version := text "version"
    servers := text "servers"
    config := path "config"
    dryRun := flag "dry-run" }

/-- Reads the arguments of `inspect`. -/
def parseInspect (arguments : List String) : Except UsageError Command := do
  let given := (← Reading.arguments inspectOptions {} arguments).given
  pure (.inspect ⟨(given.lookup "in").getD "./src"⟩)

/-- The names of the commands. -/
def names : List String := ["generate", "inspect", "help"]

/-- Reads an option before a command, of which there is only the help and the version. -/
def parseOption (name : String) (attached : Option String) : UsageError :=
  if name != "help" && name != "version" then .unknownArgument
  else if attached.isSome then .unwantedValue
  else if name == "help" then .help
  else .version

/-- Reads what help is asked for. -/
def parseHelp : List String → UsageError
  | [] => .help
  | [name] => if names.contains name then .help else .unknownCommand
  | _ => .unknownCommand

/-- Reads the arguments of a call. -/
def parse : List String → Except UsageError Command
  | [] => .error .noArguments
  | "generate" :: rest => parseGenerate rest
  | "inspect" :: rest => parseInspect rest
  | "help" :: rest => .error (parseHelp rest)
  | argument :: rest =>
    match argument.toList, rest with
    | ['-', '-'], [] => .error .noArguments
    | ['-', '-'], name :: _ =>
      .error (if names.contains name then .unknownArgument else .unknownCommand)
    | '-' :: '-' :: text, _ =>
      let (name, attached) := splitOption text
      .error (parseOption name attached)
    | '-' :: c :: _, _ =>
      .error (if c == 'h' then .help else if c == 'V' then .version else .unknownArgument)
    | _, _ => .error .unknownCommand

end Command

/-! ## Settings -/

/-- The settings that arguments give on top of a configuration. What an argument gives wins, and
servers replace those of the configuration. -/
def GenerateArguments.settingsOver (a : GenerateArguments) (c : DocumentConfig) :
    Except Trouble Settings := do
  let info ← c.info.mapError fun e => ⟨[], .server e⟩
  let servers ← match a.servers with
    | some raw => (Server.parseList raw).mapError fun e => ⟨[.serverOption], .server e⟩
    | none => pure info.servers
  let format ← if a.json then pure .json else if a.yaml then pure .yaml else do
    let configured ← c.documentFormat.mapError fun e => ⟨[], .format e⟩
    pure (configured.getD .yaml)
  pure {
    input := a.input
    documentDir := a.documentDir <|> c.output
    format
    info := {
      title := a.title.getD info.title
      version := a.version.getD info.version
      description := a.description.getD info.description
      servers } }

/-- The settings that arguments give, with the configuration that they name or that is found. -/
def GenerateArguments.settings {m : Type → Type} [Monad m] (files : Files m)
    (a : GenerateArguments) : ExceptT Trouble m Settings := do
  let config ← DocumentConfig.resolve files a.config a.input
  liftExcept (a.settingsOver config)
where
  /-- A result as one of a run. -/
  liftExcept {α : Type} : Except Trouble α → ExceptT Trouble m α
    | .ok a => pure a
    | .error e => throw e

end TransportGen
