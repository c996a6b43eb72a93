import SpanCapture.Number.Binary64
import SpanCapture.Service.Context

/-! A made-up workload: requests to an order service, each with a tree of calls below it.
Every call asks first whether it is to be recorded, and calls to a cache are discarded
again when they did not fail. -/
namespace SpanCapture

/-- The shape of the requests, and how many there are. -/
structure Workload where
  requests : Nat := 3
  /-- How deep calls nest below a request. -/
  depth : Nat := 2
  /-- How many calls each call makes that is not a leaf. -/
  fanout : Nat := 2
  application : Option String := none
  /-- Every so many leaves fail; none if zero. -/
  failEvery : Nat := 0
  deriving Repr, DecidableEq

/-- What was done, counted as it was done. -/
structure WorkloadReport where
  roots : Nat := 0
  entered : Nat := 0
  skipped : Nat := 0
  failures : Nat := 0
  discarded : Nat := 0
  deriving Repr, DecidableEq

/-- The share of probes that were turned away. -/
def WorkloadReport.skipRate (r : WorkloadReport) : Binary64 :=
  if r.entered + r.skipped = 0 then .zero else .ofRatio false r.skipped (r.entered + r.skipped)

/-- A workload under way: the service, the counts, the leaves so far, and the crash that
stopped it. -/
structure WorkloadRun where
  service : Service
  report : WorkloadReport := {}
  leaves : Nat := 0
  crash : Option String := none

namespace WorkloadRun

/-- Goes on with a run; nothing more is done once a crash has stopped it. -/
def unlessStopped (f : WorkloadRun → WorkloadRun) (run : WorkloadRun) : WorkloadRun :=
  if run.crash.isSome then run else f run

/-- Takes over a service after a call that may have crashed. -/
def after {α : Type} (run : WorkloadRun) (result : Outcome α × Service) : WorkloadRun :=
  match result with
  | (.crashed message, service) => { run with service, crash := some message }
  | (.done _, service) => { run with service }

def skip (run : WorkloadRun) : WorkloadRun :=
  { run with report := { run.report with skipped := run.report.skipped + 1 } }

def countEntered (run : WorkloadRun) : WorkloadRun :=
  { run with report := { run.report with entered := run.report.entered + 1 } }

def onOperation (context : Nat) (f : Operation → Operation) (run : WorkloadRun) : WorkloadRun :=
  { run with service :=
      (run.service.withRecorder context () fun recorder => ((), recorder.withOperation f)).2 }

def leave (context : Nat) (run : WorkloadRun) : WorkloadRun :=
  run.after (run.service.exit context)

end WorkloadRun

namespace Workload

/-- Whether an operation says that it had no rows, or nothing of rows. -/
def rowless (op : Operation) : Bool := (op.props.getInt? "db.rows").getD 0 == 0

/-- A query; how many rows it had is known at once, whether there were any is said only when it is
finalized. Nobody changes the rows before that, so what will be said can be read from them now. -/
def query (request child : Nat) : Operation :=
  let rows := Int64.ofNat (request * 10 + child)
  let op : Operation := { kind := "sql", label := "SELECT orders" }
  let op := op.put "db.rows" (.int rows)
  op.defer [.put "db.empty" (.bool (rowless op))]

/-- What a call probes for, and its operation. Leaves alternate between queries and cache
look-ups. -/
def call (w : Workload) (request level child : Nat) : Probe × Operation :=
  if level ≠ w.depth then
    ({ className := "demo.OrderService", methodName := "step" ++ toString child },
     { kind := "service", label := "OrderService.step" ++ toString child })
  else if child % 2 = 0 then
    ({ className := "demo.OrderDao", methodName := "query", plugin := some "sql" },
     query request child)
  else
    ({ className := "demo.OrderCache", methodName := "get", plugin := some "cache" },
     { kind := "cache"
       label := "orders:" ++ toString request ++ ":" ++ toString level ++ ":" ++ toString child })

/-- Runs a leaf whose frame is open: it may fail, it is closed, and a look-up is
discarded. -/
def leaf (w : Workload) (context child frame : Nat) (run : WorkloadRun) : WorkloadRun :=
  let run := { run with leaves := run.leaves + 1 }
  let fails := 0 < w.failEvery && run.leaves % w.failEvery == 0
  let run := if fails then
      { run.onOperation context (·.fail "simulated failure") with
        report := { run.report with failures := run.report.failures + 1 } }
    else run
  (run.leave context).unlessStopped fun run =>
    if child % 2 = 1 then
      let (gone, service) := run.service.discard context frame
      { run with
        service
        report := if gone then { run.report with discarded := run.report.discarded + 1 }
          else run.report }
    else run

/-- A call of some level: its probe is asked for, its frame is opened, and what is below follows. -/
def step (w : Workload) (context request level : Nat) (below : WorkloadRun → WorkloadRun)
    (run : WorkloadRun) (child : Nat) : WorkloadRun :=
  run.unlessStopped fun run =>
    let (probe, op) := w.call request level child
    let ((collected, _), service) := run.service.shouldCollect context probe
    let run := { run with service }
    if !collected then run.skip
    else
      match run.service.enter context op with
      | (.crashed message, service) => { run with service, crash := some message }
      | (.done frame, service) =>
        let run := { run with service }.countEntered
        if level = w.depth then w.leaf context child frame run
        else (below run).unlessStopped (·.leave context)

/-- The calls of so many levels, each with those below it. -/
def descend (w : Workload) (context request : Nat) : Nat → WorkloadRun → WorkloadRun
  | 0, run => run
  | levels + 1, run =>
    (List.range w.fanout).foldl
      (w.step context request (w.depth - levels) (descend w context request levels)) run

def rootProbe (w : Workload) : Probe where
  className := "demo.OrderController"
  methodName := "handle"
  application := w.application
  isEndpoint := true

def rootOperation (request : Nat) : Operation where
  kind := "http"
  label := "GET /orders/" ++ toString request
  place := some ⟨"demo.OrderController", "handle", 42⟩

/-- What is noted about a request after its root was opened. -/
def describeRoot (w : Workload) (context : Nat) (run : WorkloadRun) : WorkloadRun :=
  let run := match w.application with
    | some name =>
      { run with service := run.service.setHint context HintName.application (.text name) }
    | none => run
  run.onOperation context fun op =>
    (op.put "http.method" (.text "GET")).put "http.status" (.ofUnsigned 200)

/-- A request up to the end of its root. Its context is still open. -/
def respond (w : Workload) (run : WorkloadRun) (number : Nat) : WorkloadRun :=
  let (context, service) := run.service.newContext
  let ((collected, _), service) := service.shouldCollect context w.rootProbe
  let run := { run with service }
  if !collected then run.skip
  else
    match run.service.enter context (rootOperation number) with
    | (.crashed message, service) => { run with service, crash := some message }
    | (.done _, service) =>
      let run := { run with
        service, report := { run.report with roots := run.report.roots + 1 } }.countEntered
      (w.descend context number w.depth (w.describeRoot context run)).unlessStopped
        (·.leave context)

/-- A request from the opening of its context, which has the next number, to its end. -/
def request (w : Workload) (run : WorkloadRun) (number : Nat) : WorkloadRun :=
  run.unlessStopped fun run =>
    let finished := w.respond run number
    { finished with service := finished.service.dropContext run.service.nextContext }

/-- All requests in a row, up to the first crash. -/
def run (w : Workload) (service : Service) : Outcome WorkloadReport × Service :=
  let finished := (List.range w.requests).foldl w.request { service }
  match finished.crash with
  | some message => (.crashed message, finished.service)
  | none => (.done finished.report, finished.service)

end Workload
end SpanCapture
