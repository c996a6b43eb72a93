/-! Options of the command line: what may be given, and what it means. -/
namespace SpanCapture.CommandLine

inductive Format where
  | text
  | json
  deriving Repr, DecidableEq

structure Options where
  configPath : Option String := none
  traces : Nat := 3
  depth : Nat := 2
  fanout : Nat := 2
  application : Option String := none
  failEvery : Nat := 0
  endpointRatio : Option Nat := none
  serverName : Option String := none
  maxFrames : Option Nat := none
  format : Format := .text
  stats : Bool := false
  debug : Bool := false
  deriving Repr, DecidableEq

inductive OptionName where
  | config
  | traces
  | depth
  | fanout
  | application
  | failEvery
  | endpointRatio
  | serverName
  | maxFrames
  | format
  | stats
  | debug
  | help
  | version
  deriving Repr, DecidableEq

namespace OptionName

/-- All options, in the order they are documented. -/
def all : List OptionName :=
  [config, traces, depth, fanout, application, failEvery, endpointRatio, serverName, maxFrames,
    format, stats, debug, help, version]

def long : OptionName → String
  | config => "config"
  | traces => "traces"
  | depth => "depth"
  | fanout => "fanout"
  | application => "app"
  | failEvery => "fail-every"
  | endpointRatio => "endpoint-only-ratio"
  | serverName => "server-name"
  | maxFrames => "max-frames"
  | format => "format"
  | stats => "stats"
  | debug => "debug"
  | help => "help"
  | version => "version"

def short? : OptionName → Option Char
  | config => some 'c'
  | traces => some 'n'
  | help => some 'h'
  | version => some 'V'
  | _ => none

/-- What the value of an option is called; those without one are flags. -/
def valueName? : OptionName → Option String
  | config => some "PATH"
  | traces => some "TRACES"
  | depth => some "DEPTH"
  | fanout => some "FANOUT"
  | application => some "NAME"
  | failEvery => some "N"
  | endpointRatio => some "PERCENT"
  | serverName => some "NAME"
  | maxFrames => some "N"
  | format => some "FORMAT"
  | _ => none

def takesValue (o : OptionName) : Bool := o.valueName?.isSome

def about : OptionName → String
  | config => "Load tracer configuration from a TOML file"
  | traces => "Number of root executions to simulate"
  | depth => "Nesting depth below each root frame"
  | fanout => "Children opened under every non-leaf frame"
  | application =>
    "Application name hint set on every root (omit to exercise unknown-application handling)"
  | failEvery => "Mark every Nth leaf operation as failed (0 disables)"
  | endpointRatio =>
    "Percentage of traces downgraded to endpoint-only collection (overrides config)"
  | serverName => "Server name stamped on traces (overrides config)"
  | maxFrames => "Maximum frames per trace (overrides config)"
  | format => "Output format"
  | stats => "Print workload and dispatch statistics to stderr"
  | debug => "Enable debug tracing output to stderr"
  | help => "Print help"
  | version => "Print version"

/-- The value an option has when it is not given, as it would be written. -/
def default? : OptionName → Option String
  | traces => some "3"
  | depth => some "2"
  | fanout => some "2"
  | failEvery => some "0"
  | format => some "text"
  | _ => none

/-- The only values an option takes, each with what it means, where it takes but a few. -/
def choices : OptionName → List (String × String)
  | format => [("text", "Indented frame tree (default)"), ("json", "One JSON document per line")]
  | _ => []

def ofLong? (name : String) : Option OptionName := all.find? fun o => o.long == name

def ofShort? (letter : Char) : Option OptionName := all.find? fun o => o.short? == some letter

theorem ofLong?_long (o : OptionName) : ofLong? o.long = some o := by
  cases o <;> decide +kernel

end OptionName
end SpanCapture.CommandLine
