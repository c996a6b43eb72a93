import SpanCapture.Collection.Aspects
import SpanCapture.Service.Slots
import SpanCapture.Trace.Assembly

/-! The tracing service: settings and strategies, analyzers, the dispatcher, and the
execution contexts with their recorders. It is built from a configuration; the bundled
strategies always come first and in the same order, so they are known by number. -/
namespace SpanCapture

/-- Something the service did that can be seen from outside. -/
inductive ServiceEvent where
  | board (event : BoardEvent)
  | offer (offer : Offer)

/-- All that a service is made from: a configuration, what is plugged in, and what it finds around
it. -/
structure Setup where
  config : Config
  /-- The settings to use, and who is subscribed to them already. -/
  board : Switchboard := {}
  analyzers : List Analyzer := []
  /-- Strategies behind the bundled ones. -/
  strategies : List CustomStrategy := []
  receivers : List Receiver := []
  resolver : Resolver := Resolver.byHint
  clock : Clock
  threadName : Option String
  threadId : String
  callStack : List String
  /-- Identifiers for traces that have none, none given twice. -/
  freshIds : Nat → String
  watched : Bool := false

/-- A tracing service with its contexts. -/
structure Service where
  config : Config
  board : Switchboard
  analyzers : AnalyzerRegister
  assembler : Assembler
  dispatcher : Dispatcher
  clock : Clock
  threadName : Option String
  threadId : String
  freshIds : Nat → String
  drawn : Nat := 0
  contexts : Slots Recorder := []
  nextContext : Nat := 1
  watched : Bool
  journal : List ServiceEvent := []

namespace Service

def ignoredStrategy : Nat := 1

def endpointStrategy : Nat := 2

def aspectStrategy : Nat := 4

/-- A switchboard with the chain of bundled strategies, and others behind them. -/
def buildBoard (config : Config) (custom : List CustomStrategy) (board : Switchboard) :
    Switchboard :=
  let (_, board) := board.subscribe .chain
  let (agent, board) := board.addAgent
  let (ignored, board) := board.add (.ignored [])
  let (endpoints, board) := board.addEndpoints config.endpointRatio
  let (plugins, board) := board.add .plugins
  let (aspects, board) := board.addAspects config.aspectThreshold
  let (sites, board) := board.add (.callSites [])
  let board := [agent, ignored, endpoints, plugins, aspects, sites].foldl
    (fun board number => board.enlist number) board
  custom.foldl (fun board strategy =>
    let (number, board) := board.add (.custom strategy)
    board.enlist number) board

/-- Builds a service. Fails if the configuration is not valid, and crashes if there is no
memory for the buffer it asks for. -/
def build (setup : Setup) : Outcome (Except Failure Service) :=
  match setup.config.validate with
  | .error failure => .done (.error failure)
  | .ok config =>
    let board := buildBoard config setup.strategies setup.board
    (Dispatcher.create config.bufferCapacity).map fun dispatcher =>
      .ok {
        config, board
        analyzers := setup.analyzers
        assembler := {
          server := config.serverName, diagnoseUnknown := config.diagnoseUnknown
          resolver := setup.resolver, callStack := setup.callStack }
        dispatcher := setup.receivers.foldl (fun d r => (d.register r).2) dispatcher
        clock := setup.clock
        threadName := setup.threadName
        threadId := setup.threadId
        freshIds := setup.freshIds
        watched := setup.watched }

/-- Takes over a switchboard, noting what happened on it. -/
def withBoard (board : Switchboard) (s : Service) : Service :=
  { s with
    board
    journal := s.journal ++ (board.journal.drop s.board.journal.length).map .board }

/-- Takes over a dispatcher, noting the offers it made. -/
def withDispatcher (dispatcher : Dispatcher) (s : Service) : Service :=
  { s with
    dispatcher
    journal := s.journal ++ (dispatcher.journal.drop s.dispatcher.journal.length).map .offer }

def register (receiver : Receiver) (s : Service) : Nat × Service :=
  let (handle, dispatcher) := s.dispatcher.register receiver
  (handle, s.withDispatcher dispatcher)

/-- The applications whose traces are dropped. -/
def ignoredApplications (s : Service) : List String := s.board.ignoredBy ignoredStrategy

/-- Opens a context under the next number, with a recorder of its own. -/
def newContext (s : Service) : Nat × Service :=
  let identity : Identity := ⟨s.nextContext, s.threadName, s.threadId⟩
  let recorder : Recorder := { limits := s.config.limits, analyzers := s.analyzers, identity }
  (s.nextContext, { s with
    contexts := s.contexts.insert s.nextContext recorder
    nextContext := s.nextContext + 1 })

def dropContext (id : Nat) (s : Service) : Service := { s with contexts := s.contexts.erase id }

def recorder? (id : Nat) (s : Service) : Option Recorder := s.contexts.find? id

def setRecorder (id : Nat) (recorder : Recorder) (s : Service) : Service :=
  { s with contexts := s.contexts.modify id fun _ => recorder }

/-- Makes a trace of a completed root and dispatches it, unless it is dropped. -/
def finish (completed : CompletedTrace) (s : Service) : Outcome Unit × Service :=
  let fresh := s.freshIds s.drawn
  match s.assembler.assemble s.ignoredApplications fresh s.clock completed with
  | (clock, .crashed message) => (.crashed message, { s with clock })
  | (clock, .done (.dumped _)) => (.done (), { s with clock })
  | (clock, .done (.trace trace)) =>
    let (_, dispatcher) := s.dispatcher.dispatch trace
    (.done (), { s with clock, drawn := s.drawn + 1 }.withDispatcher dispatcher)

end Service
end SpanCapture
