import SpanCapture.Service.Context

/-! The watchdog. A sweep visits every context once and unwinds those whose current frame
has been open for too long. A context in use by somebody else is passed over. A script
that crashes ends the sweep. -/
namespace SpanCapture

/-- How many contexts a sweep came to, and what became of them. -/
structure SweepReport where
  visited : Nat := 0
  busy : Nat := 0
  unwound : Nat := 0
  deriving Repr, DecidableEq

namespace Service

def maxAge (s : Service) : Nat := s.config.maxTraceSeconds * nanosPerSecond

/-- Visits a context that nobody uses; the flag tells whether it was unwound. -/
def visit (now id : Nat) (recorder : Recorder) (s : Service) : Outcome Bool × Service :=
  let (clock, recorder, outcome) := recorder.unwind s.maxAge now s.clock
  let s := { s with clock }.setRecorder id recorder
  match outcome with
  | .crashed message => (.crashed message, s)
  | .done none => (.done false, s)
  | .done (some completed) =>
    let (outcome, s) := s.finish completed
    (outcome.map fun _ => true, s)

/-- Visits contexts one after another. Those held by somebody are busy while a frame is
open in them. -/
def sweepThrough (now : Nat) (held : List Nat) (report : SweepReport) :
    List (Nat × Recorder) → Service → Outcome SweepReport × Service
  | [], s => (.done report, s)
  | (id, recorder) :: rest, s =>
    let report := { report with visited := report.visited + 1 }
    if held.contains id && recorder.isBuilding then
      sweepThrough now held { report with busy := report.busy + 1 } rest s
    else
      match s.visit now id recorder with
      | (.crashed message, s) => (.crashed message, s)
      | (.done unwound, s) =>
        let report := if unwound then { report with unwound := report.unwound + 1 } else report
        sweepThrough now held report rest s

/-- Visits the contexts in the order of their slots. -/
def sweep (now : Nat) (held : List Nat) (s : Service) : Outcome SweepReport × Service :=
  sweepThrough now held {} s.contexts.entries s

end Service
end SpanCapture
