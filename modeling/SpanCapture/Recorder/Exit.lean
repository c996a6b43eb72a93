import SpanCapture.Operation.Script
import SpanCapture.Recorder.Enter

/-! Leaving frames. The operation is finalized before its frame is closed, so what its
scripts take counts for the frame. A script that crashes loses the frame with all below
it. Unwinding closes every open frame of a trace that has gone on too long. -/
namespace SpanCapture

/-- What leaving a frame gives: the closed frame, and the trace if it was the root. -/
structure Exited where
  info : FrameEntry
  completed : Option CompletedTrace := none

namespace Recorder

/-- The trace of a closed root, and the recorder without it. -/
def complete (clock : Clock) (root : Frame) (r : Recorder) : CompletedTrace × Recorder :=
  ({ root, hints := r.hints, endpoint := r.endpoint
     start := r.start.getD clock.instant, identity := r.identity },
   { r.reset with hints := [] })

/-- Closes the current frame: its operation is finalized, then its time ends. -/
def exit (clock : Clock) (r : Recorder) : Clock × Recorder × Outcome (Option Exited) :=
  match r.openFrames with
  | [] => (clock, r, .done none)
  | .node entry children :: outer =>
    match entry.op.finalize clock with
    | (clock, _, .crashed message) => (clock, { r with openFrames := outer }, .crashed message)
    | (clock, op, .done ()) =>
      let entry := { entry with op }.closed clock.now
      let frame := Frame.node entry children
      match outer with
      | [] =>
        let (trace, r) := { r with openFrames := [] }.complete clock frame
        (clock, r, .done (some { info := entry, completed := some trace }))
      | .node parent siblings :: outer =>
        let openFrames := .node parent (siblings ++ [frame]) :: outer
        (clock, { r with openFrames, depth := r.depth - 1 }, .done (some { info := entry }))

/-- Leaves so many frames, or fewer if a trace is completed before. -/
def exitMany : Nat → Clock → Recorder → Clock × Recorder × Outcome (Option CompletedTrace)
  | 0, clock, r => (clock, r, .done none)
  | n + 1, clock, r =>
    match r.exit clock with
    | (clock, r, .crashed message) => (clock, r, .crashed message)
    | (clock, r, .done none) => (clock, r, .done none)
    | (clock, r, .done (some exited)) =>
      match exited.completed with
      | some trace => (clock, r, .done (some trace))
      | none => exitMany n clock r

/-- Marks the current frame as overdue, and the trace as one not to be delivered. -/
def markOverdue (r : Recorder) : Recorder :=
  let openFrames := match r.openFrames with
    | .node entry children :: outer =>
      .node { entry with op := entry.op.put Operation.overdueKey (.bool true) } children :: outer
    | [] => []
  ({ r with openFrames }.setHint HintName.overdue (.bool true)).setHint HintName.discard
    (.bool true)

/-- How long the current frame has been open. -/
def topAge? (now : Nat) (r : Recorder) : Option Nat :=
  r.top?.map fun frame => now - frame.entry.span.start

/-- Unwinds the trace if its current frame has been open for so many nanoseconds. -/
def unwind (maxAge now : Nat) (clock : Clock) (r : Recorder) :
    Clock × Recorder × Outcome (Option CompletedTrace) :=
  match r.topAge? now with
  | none => (clock, r, .done none)
  | some age =>
    if age < maxAge then (clock, r, .done none)
    else exitMany r.openFrames.length clock r.markOverdue

/-- Runs an action on the current operation; nothing happens where there is none. -/
def act (clock : Clock) (action : Action) (r : Recorder) :
    Clock × Recorder × Option (Outcome Reply) :=
  match r.openFrames with
  | [] => (clock, r, none)
  | .node entry children :: outer =>
    let (clock, op, outcome) := entry.op.act clock action
    (clock, { r with openFrames := .node { entry with op } children :: outer }, some outcome)

def withOperation (f : Operation → Operation) (r : Recorder) : Recorder :=
  match r.openFrames with
  | [] => r
  | .node entry children :: outer =>
    { r with openFrames := .node { entry with op := f entry.op } children :: outer }

theorem exit_idle (clock : Clock) (r : Recorder) (h : r.openFrames = []) :
    r.exit clock = (clock, r, .done none) := by
  simp [exit, h]

end Recorder
end SpanCapture
