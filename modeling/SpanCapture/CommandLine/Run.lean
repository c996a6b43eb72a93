import SpanCapture.CommandLine.Arguments
import SpanCapture.CommandLine.Help
import SpanCapture.Number.Fixed
import SpanCapture.Workload

/-! A run from the command line: a tracer is built, a made-up workload is recorded, and the
traces are shown. Failures are reported with their causes. -/
namespace SpanCapture.CommandLine

/-- What a run leaves: its exit code, and what it wrote. -/
structure Report where
  exitCode : Nat
  stdout : String := ""
  stderr : String := ""
  deriving Repr, DecidableEq

/-- What a program finds around it when it starts. -/
structure Surroundings where
  clock : Clock
  threadName : Option String
  threadId : String
  callStack : List String
  freshIds : Nat → String

def versionText : String := "trazo 0.3.0\n"

/-- The causes of a failure; they are numbered if there are several. -/
def causeLines (causes : List String) : String :=
  match causes with
  | [] => ""
  | [cause] => "\n\nCaused by:\n    " ++ cause
  | causes =>
    "\n\nCaused by:" ++ String.join ((causes.zipIdx).map fun (cause, i) =>
      "\n    " ++ toString i ++ ": " ++ cause)

def failureText (message : String) (causes : List String) : String :=
  "Error: " ++ message ++ causeLines causes ++ "\n"

def failed (message : String) (causes : List String) : Report :=
  { exitCode := 1, stderr := failureText message causes }

/-- A configuration with what the command line says instead. -/
def override (options : Options) (config : Config) : Config :=
  { config with
    serverName := options.serverName.getD config.serverName
    maxFrames := options.maxFrames.getD config.maxFrames
    endpointRatio := options.endpointRatio.getD config.endpointRatio }

/-- The configuration of a run, or the report of why there is none. The file is what
reading the path gave. -/
def configOf (options : Options) (file : String → Except StreamFault ByteArray) :
    Except Report Config :=
  let loaded : Except Report Config :=
    match options.configPath with
    | none => .ok {}
    | some path =>
      let read : Except Failure Config :=
        match file path with
        | .error fault => .error (.stream fault)
        | .ok bytes => Config.ofBytes bytes
      match read with
      | .ok config => .ok config
      | .error failure =>
        .error (failed ("failed to load config from " ++ path)
          (failure.message :: failure.causes))
  match loaded with
  | .error report => .error report
  | .ok config =>
    match (override options config).validate with
    | .ok config => .ok config
    | .error failure => .error (failed failure.message failure.causes)

def analyzers : List Analyzer :=
  [.typed ["http"] 100 0, .typed ["service"] 50 5, .typed ["sql"] 10 0]

def setup (options : Options) (config : Config) (around : Surroundings) : Setup where
  config := config
  analyzers := analyzers
  receivers := [{ label := "stdout", sink := match options.format with
    | .text => .outlines {}
    | .json => .jsonLines {} }]
  clock := around.clock
  threadName := around.threadName
  threadId := around.threadId
  callStack := around.callStack
  freshIds := around.freshIds
  watched := true

def workload (options : Options) : Workload where
  requests := options.traces
  depth := options.depth
  fanout := options.fanout
  application := options.application
  failEvery := options.failEvery

def percentText (share : Binary64) : String := (share.mul (.ofNat 100)).fixed 1 ++ "%"

def statsText (report : WorkloadReport) (d : Dispatcher) : String :=
  "=== Workload ===\n" ++
  "roots:          " ++ toString report.roots ++ "\n" ++
  "frames entered: " ++ toString report.entered ++ "\n" ++
  "probes skipped: " ++ toString report.skipped ++ " (" ++ percentText report.skipRate ++ ")\n" ++
  "failures:       " ++ toString report.failures ++ "\n" ++
  "discarded:      " ++ toString report.discarded ++ "\n" ++
  "=== Dispatch ===\n" ++
  "dispatched:     " ++ toString d.counts.dispatched ++ "\n" ++
  "delivered:      " ++ toString d.counts.delivered ++ "\n" ++
  "buffered:       " ++ toString d.counts.buffered ++ "\n" ++
  "evicted:        " ++ toString d.counts.evicted ++ " (" ++ percentText d.evictionRate ++ ")\n"

def writtenBy (d : Dispatcher) : String :=
  String.join (d.receivers.map fun r => (r.writer?.map (·.text)).getD "")

/-- Runs a workload under a configuration, and shows the traces. -/
def execute (options : Options) (around : Surroundings) (config : Config) : Report :=
  match Service.build (setup options config around) with
  | .crashed message => { exitCode := 101, stderr := message ++ "\n" }
  | .done (.error failure) => failed failure.message failure.causes
  | .done (.ok service) =>
    match (workload options).run service with
    | (.crashed message, service) =>
      { exitCode := 101, stdout := writtenBy service.dispatcher, stderr := message ++ "\n" }
    | (.done report, service) =>
      { exitCode := 0
        stdout := writtenBy service.dispatcher
        stderr := if options.stats then statsText report service.dispatcher else "" }

def run (args : List String) (file : String → Except StreamFault ByteArray)
    (around : Surroundings) : Report :=
  match parse args with
  | .error (.displayHelp full) => { exitCode := 0, stdout := Help.text full }
  | .error .displayVersion => { exitCode := 0, stdout := versionText }
  | .error _ =>
    { exitCode := 2, stderr := "error: invalid arguments\n\nFor more information, try '--help'.\n" }
  | .ok options =>
    match configOf options file with
    | .error report => report
    | .ok config => execute options around config

end SpanCapture.CommandLine
