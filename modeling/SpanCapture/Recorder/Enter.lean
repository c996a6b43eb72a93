import SpanCapture.Recorder.Basic

/-! Entering a frame. A trace that has grown too large is dropped first. The analyzers may
propose the operation as endpoint; the mark of the endpoint moves with it. An analyzer
that crashes loses the frame, while the counters have moved already. -/
namespace SpanCapture
namespace Recorder

/-- The kinds of the open operations, outermost first. -/
def openKinds (r : Recorder) : List String := r.openFrames.reverse.map (·.entry.op.kind)

/-- Changes the operation of a frame, open or closed. -/
def adjust (id : Nat) (f : Operation → Operation) (r : Recorder) : Recorder :=
  { r with openFrames := (Frame.adjustIn id f r.openFrames).1 }

/-- Takes the endpoint mark from the frame of the endpoint so far. -/
def unmark (r : Recorder) : Recorder :=
  match r.endpoint with
  | some previous => r.adjust previous.frame (Operation.markEndpoint false)
  | none => r

/-- What is counted when a frame is entered, before the analyzers are asked. -/
def countEntry (clock : Clock) (r : Recorder) : Recorder :=
  { r with
    start := if r.openFrames.isEmpty then some clock.instant else r.start
    lastId := r.lastId + 1
    frameCount := r.frameCount + 1
    depth := r.depth + 1 }

/-- Puts a frame on top of the open ones. One frame too many aborts the trace. -/
def push (entry : FrameEntry) (r : Recorder) : Recorder :=
  let r := { r with openFrames := .node entry [] :: r.openFrames }
  if r.limits.maxFrames < r.frameCount ∧ !r.isAborted then
    r.setHint HintName.aborted (.bool true)
  else r

/-- Takes up a candidate that is better than the endpoint so far: the entry of its frame
carries the mark instead of the frame before. -/
def consider (candidate : Option Endpoint) (entry : FrameEntry) (r : Recorder) :
    FrameEntry × Recorder :=
  match candidate with
  | none => (entry, r)
  | some found =>
    if found.beats r.endpoint then
      ({ entry with op := entry.op.markEndpoint true }, { r.unmark with endpoint := some found })
    else (entry, r)

/-- Opens a frame of a recorder that is not aborted. -/
def enterFresh (clock : Clock) (op : Operation) (r : Recorder) : Outcome Nat × Recorder :=
  let parent := r.top?.map Frame.id
  let r := r.countEntry clock
  let entry := FrameEntry.opened r.lastId parent op clock.now
  match r.analyzers.locate op entry.id r.depth r.openKinds with
  | .crashed message => (.crashed message, r)
  | .done candidate =>
    let (entry, r) := r.consider candidate entry
    (.done entry.id, r.push entry)

/-- Opens a frame below the current one. -/
def enter (clock : Clock) (op : Operation) (r : Recorder) : Outcome Nat × Recorder :=
  enterFresh clock op (if r.isAborted then r.resetAborted else r)

@[simp] theorem id_consider (candidate : Option Endpoint) (entry : FrameEntry) (r : Recorder) :
    (r.consider candidate entry).1.id = entry.id := by
  unfold consider
  split
  · rfl
  · split <;> rfl

end Recorder
end SpanCapture
