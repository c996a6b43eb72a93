import SpanCapture.Recorder.Basic

/-! Discarding frames. A closed frame is taken out of the tree with all below it, unless a
failure is recorded there. An open frame stays; for the root a hint is left instead. -/
namespace SpanCapture
namespace Recorder

/-- A frame in the trace in progress, open or closed. -/
def find? (id : Nat) (r : Recorder) : Option Frame := Frame.findIn? id r.openFrames

/-- Takes a closed frame from its parent, with all below it. -/
def removeClosed (parent id : Nat) (r : Recorder) : Bool × Recorder :=
  match Frame.pruneIn? parent id r.openFrames with
  | none => (false, r)
  | some (removed, openFrames) =>
    (true, { r with openFrames, frameCount := r.frameCount - removed.size })

/-- Discards a frame; the flag tells whether that was granted. It is refused for frames that are
not there, for open ones but the root, and where a failure would be lost. -/
def discard (id : Nat) (r : Recorder) : Bool × Recorder :=
  match r.root? with
  | none => (false, r)
  | some root =>
    if root.id = id then (true, r.setHint HintName.discard (.bool true))
    else if r.openFrames.any fun frame => frame.id == id then (false, r)
    else
      match r.find? id with
      | none => (false, r)
      | some target =>
        if target.containsException then (false, r)
        else
          match target.entry.parent with
          | none => (false, r)
          | some parent => r.removeClosed parent id

theorem discard_root {r : Recorder} {root : Frame} (isRoot : r.root? = some root) :
    r.discard root.id = (true, r.setHint HintName.discard (.bool true)) := by
  unfold discard
  rw [isRoot]
  exact if_pos rfl

end Recorder
end SpanCapture
