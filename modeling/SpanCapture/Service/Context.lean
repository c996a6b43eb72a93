import SpanCapture.Recorder.Discard
import SpanCapture.Service.Basic

/-! What instrumentation does in an execution context. Opening a root also decides whether
its trace is downgraded to endpoints; closing it delivers the trace. -/
namespace SpanCapture
namespace Service

/-- Decides about the root just opened: a downgraded trace carries two hints. -/
def decideRoot (id : Nat) (recorder : Recorder) (s : Service) : Service :=
  let (downgrade, board) := s.board.decideRoot endpointStrategy
  let s := s.withBoard board
  if downgrade then
    s.setRecorder id ((recorder.setHint HintName.onlyEndpoints (.bool true)).setHint
      HintName.collectionLevel (.text "low"))
  else s

/-- Opens a frame; gives its number, or zero where there is no such context. -/
def enter (id : Nat) (op : Operation) (s : Service) : Outcome Nat × Service :=
  match s.recorder? id with
  | none => (.done 0, s)
  | some recorder =>
    let (outcome, recorder) := recorder.enter s.clock op
    let s := s.setRecorder id recorder
    (outcome, if outcome.isDone && recorder.atRoot then s.decideRoot id recorder else s)

/-- Closes the current frame of a context. A root closed is a trace to finish. -/
def exit (id : Nat) (s : Service) : Outcome (Option FrameEntry) × Service :=
  match s.recorder? id with
  | none => (.done none, s)
  | some recorder =>
    let (clock, recorder, outcome) := recorder.exit s.clock
    let s := { s with clock }.setRecorder id recorder
    match outcome with
    | .crashed message => (.crashed message, s)
    | .done none => (.done none, s)
    | .done (some exited) =>
      match exited.completed with
      | none => (.done (some exited.info), s)
      | some completed =>
        let (outcome, s) := s.finish completed
        (outcome.map fun _ => some exited.info, s)

/-- Does something with the recorder of a context; gives a default where there is none. -/
def withRecorder {β : Type} (id : Nat) (default : β) (f : Recorder → β × Recorder) (s : Service) :
    β × Service :=
  match s.recorder? id with
  | none => (default, s)
  | some recorder =>
    let (answer, recorder) := f recorder
    (answer, s.setRecorder id recorder)

/-- Discards a frame of the trace in progress; the flag tells whether that was granted. -/
def discard (id frame : Nat) (s : Service) : Bool × Service :=
  s.withRecorder id false (·.discard frame)

def setHint (id : Nat) (key : String) (value : Value) (s : Service) : Service :=
  (s.withRecorder id () fun recorder => ((), recorder.setHint key value)).2

def act (id : Nat) (action : Action) (s : Service) : Option (Outcome Reply) × Service :=
  match s.recorder? id with
  | none => (none, s)
  | some recorder =>
    let (clock, recorder, outcome) := recorder.act s.clock action
    (outcome, { s with clock }.setRecorder id recorder)

/-- A probe as it is judged in a context: the hints say whether the trace is downgraded,
and name the application if the probe does not. -/
def localProbe (hints : Hints) (probe : Probe) : Probe :=
  { probe with
    endpointOnly := hints.flag HintName.onlyEndpoints
    application := probe.application.or (hints.text? HintName.application) }

/-- Asks the chain about a probe, with what the context knows added to it. -/
def shouldCollect (id : Nat) (probe : Probe) (s : Service) : (Bool × Probe) × Service :=
  let hints := ((s.recorder? id).map (·.hints)).getD []
  let probe := localProbe hints probe
  let (verdict, board) := s.board.collect probe
  ((verdict, probe), s.withBoard board)

def shownContext (id : Nat) (s : Service) : String :=
  "ExecutionContext \x7b id: " ++ toString id ++ ", depth: " ++
    toString (((s.recorder? id).map (·.depth)).getD 0) ++ " \x7d"

end Service
end SpanCapture
