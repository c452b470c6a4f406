import TransportGen.Text.Blank
import TransportGen.Text.Letter

/-!
# Settings of the log

The log is set up by variables of the environment. A word that is not known counts as if the variable
were not set.
-/

namespace TransportGen

/-- How much is logged. -/
inductive LogLevel where
  | trace
  | debug
  | info
  | warn
  | error
  deriving DecidableEq, Repr

/-- How log lines are written. -/
inductive LogFormat where
  | json
  | pretty
  deriving DecidableEq, Repr

/-- A text in lower case. -/
def lowerCase (text : String) : String := String.ofList (text.toList.flatMap Text.toLower)

/-- The level of a word in any case. -/
def LogLevel.parse (word : String) : LogLevel :=
  match lowerCase word with
  | "trace" => .trace
  | "debug" => .debug
  | "warn" => .warn
  | "error" => .error
  | _ => .info

/-- The name of a level. -/
def LogLevel.name : LogLevel → String
  | .trace => "TRACE"
  | .debug => "DEBUG"
  | .info => "INFO"
  | .warn => "WARN"
  | .error => "ERROR"

/-- The format of a word in any case. -/
def LogFormat.parse (word : String) : LogFormat :=
  if lowerCase word == "json" then .json else .pretty

/-- The name of a format. -/
def LogFormat.name : LogFormat → String
  | .json => "json"
  | .pretty => "pretty"

/-- The settings of the log. -/
structure LogSettings where
  /-- The word for the level. -/
  levelWord : String := "info"
  format : LogFormat := .pretty
  /-- Further filters, separated by commas. -/
  targetFilter : Option String := none
  /-- Whether lines tell where in the program they come from. -/
  includeLocation : Bool := false
  deriving DecidableEq, Repr

namespace LogSettings

/-- The level. -/
def level (s : LogSettings) : LogLevel := .parse s.levelWord

/-- The settings of an environment, which gives the values of variables. -/
def ofEnvironment (value? : String → Option String) : LogSettings where
  levelWord := (value? "GTG_LOG_LEVEL").getD "info"
  format := ((value? "GTG_LOG_FORMAT").map LogFormat.parse).getD .pretty
  targetFilter := (value? "GTG_LOG_TARGET_FILTER").filter fun text =>
    !text.toList.all Text.isBlank
  includeLocation := value? "GTG_LOG_INCLUDE_LOCATION" == some "true"

end LogSettings

end TransportGen
