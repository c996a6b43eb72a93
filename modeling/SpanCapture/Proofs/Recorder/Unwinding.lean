import SpanCapture.Proofs.Operation.Calm
import SpanCapture.Proofs.Operation.Sparing
import SpanCapture.Proofs.Recorder.CallTree
import SpanCapture.Proofs.Trace.Assembly

/-! Unwinding by the watchdog. The open frames are left one after another, innermost first; unless a
script of theirs crashes, that ends with the root. The completed trace has all frames that were held,
each where it was, and it is dropped whatever it holds. -/
namespace SpanCapture

namespace Frame

/-- A stack after all its frames have been left, innermost first, each at the time it has become by
then. Closed frames stay as they are. -/
def leaveAll (clock : Clock) : List Frame → List Frame
  | [] => []
  | .node e cs :: outer => .node (e.left clock) cs :: leaveAll (e.op.finalize clock).1 outer

def delay : List Frame → Nat
  | [] => 0
  | frame :: outer => frame.entry.op.delay + delay outer

end Frame

def FrameEntry.overdue (e : FrameEntry) : FrameEntry :=
  { e with op := e.op.put Operation.overdueKey (.bool true) }

namespace Recorder

def Calm (r : Recorder) : Prop := ∀ frame ∈ r.openFrames, frame.entry.op.Calm

instance : DecidablePred Calm := fun r =>
  inferInstanceAs (Decidable (∀ frame ∈ r.openFrames, frame.entry.op.Calm))

/-- What unwinding makes of a recorder at a time. -/
structure Unwound (clock : Clock) (r : Recorder) (trace : CompletedTrace) : Prop where
  /-- It is completed when the last frame has been left, with the hints of a trace overdue. -/
  completed : trace = (r.markOverdue.complete
    (clock.advance (Frame.delay r.markOverdue.openFrames)) trace.root).1
  /-- The frames that were open have been left one after another, the others are as they were. -/
  tree : Frame.visits [] trace.root =
    Frame.openVisits (Frame.leaveAll clock r.markOverdue.openFrames)
  /-- Every frame held is there, below the same frames. -/
  places : (Frame.visits [] trace.root).map Visit.place =
    (Frame.openVisits r.openFrames).map Visit.place
  settled : ∀ frame ∈ Frame.leaveAll clock r.markOverdue.openFrames, frame.entry.op.Settled
  /-- The frame on top was marked before its scripts ran. -/
  top : ∃ e cs outer, r.openFrames = .node e cs :: outer ∧
    ⟨e.overdue.left clock, outer.map Frame.id⟩ ∈ Frame.visits [] trace.root ∧
    (e.op.Spares Operation.overdueKey →
      (e.overdue.left clock).op.props.find? Operation.overdueKey = some (.bool true))

section
variable {clock : Clock} {r : Recorder} {maxAge now : Nat} {trace : CompletedTrace}

theorem map_id_leaveAll (clock : Clock) (frames : List Frame) :
    (Frame.leaveAll clock frames).map Frame.id = frames.map Frame.id := by
  induction frames generalizing clock with
  | nil => rfl
  | cons frame outer ih =>
      obtain ⟨e, cs⟩ := frame
      exact List.cons_eq_cons.mpr ⟨rfl, ih _⟩

/-- Leaving moves no frame. -/
theorem places_leaveAll (clock : Clock) (frames : List Frame) :
    (Frame.openVisits (Frame.leaveAll clock frames)).map Visit.place =
      (Frame.openVisits frames).map Visit.place := by
  induction frames generalizing clock with
  | nil => rfl
  | cons frame outer ih =>
      obtain ⟨e, cs⟩ := frame
      rw [Frame.leaveAll, Frame.openVisits_cons, Frame.openVisits_cons, List.map_append,
        List.map_append, ih, map_id_leaveAll]
      rfl

theorem settled_leaveAll {frames : List Frame} (calm : ∀ frame ∈ frames, frame.entry.op.Calm) :
    ∀ frame ∈ Frame.leaveAll clock frames, frame.entry.op.Settled := by
  induction frames generalizing clock with
  | nil => exact fun _ none => absurd none List.not_mem_nil
  | cons frame outer ih =>
      obtain ⟨e, cs⟩ := frame
      obtain ⟨top, rest⟩ := List.forall_mem_cons.mp calm
      refine List.forall_mem_cons.mpr ⟨?_, ih rest⟩
      exact Operation.settled_finalize ((Operation.isDone_finalize_iff _).mpr top)

theorem openFrames_overdue {e : FrameEntry} {cs outer : List Frame}
    (frames : r.openFrames = .node e cs :: outer) :
    r.markOverdue.openFrames = .node e.overdue cs :: outer := by
  unfold markOverdue
  rw [frames]
  rfl

theorem places_markOverdue (r : Recorder) :
    (Frame.openVisits r.markOverdue.openFrames).map Visit.place =
      (Frame.openVisits r.openFrames).map Visit.place := by
  rw [openFrames_markOverdue]
  have changed := changes (Operation.put Operation.overdueKey (.bool true)) r
  generalize r.withOperation _ = r' at changed
  cases changed with
  | idle => rfl
  | top frames =>
      rw [frames, Frame.openVisits_cons, Frame.openVisits_cons, List.map_append, List.map_append]
      rfl

theorem calm_markOverdue (r : Recorder) : r.markOverdue.Calm ↔ r.Calm := by
  unfold Calm
  rw [openFrames_markOverdue]
  have changed := changes (Operation.put Operation.overdueKey (.bool true)) r
  generalize r.withOperation _ = r' at changed
  cases changed with
  | idle => exact Iff.rfl
  | top frames =>
      rw [frames, List.forall_mem_cons, List.forall_mem_cons]
      exact Iff.rfl

/-- So many exits as frames are open are answered just when no script crashes. -/
theorem isDone_exitMany_iff {n : Nat} (length : r.openFrames.length = n) :
    (exitMany n clock r).2.2.isDone ↔ r.Calm := by
  unfold Calm
  induction n generalizing clock r with
  | zero =>
      rw [List.eq_nil_of_length_eq_zero length]
      exact iff_of_true rfl (fun _ none => absurd none List.not_mem_nil)
  | succ n ih =>
      rw [exitMany]
      have left := exits clock r
      generalize r.exit clock = exited at left
      cases left with
      | idle frames => simp [frames] at length
      | @crash e cs outer message frames crashed =>
          have loud : ¬e.op.Calm := by
            rw [← Operation.isDone_finalize_iff clock, crashed]
            exact Bool.false_ne_true
          rw [frames, List.forall_mem_cons]
          exact iff_of_false Bool.false_ne_true (fun calm => loud calm.1)
      | @root e cs frames finalized =>
          have calm : e.op.Calm := by
            rw [← Operation.isDone_finalize_iff clock, finalized]
            rfl
          rw [frames, List.forall_mem_singleton]
          exact iff_of_true rfl calm
      | @inner e parent cs siblings outer frames finalized =>
          have calm : e.op.Calm := by
            rw [← Operation.isDone_finalize_iff clock, finalized]
            rfl
          dsimp only
          rw [ih (by simpa [frames] using length), frames, List.forall_mem_cons, List.forall_mem_cons,
            List.forall_mem_cons]
          exact (and_iff_right calm).symm

/-- What so many exits as frames are open come to if no script crashes. -/
theorem exitMany_leaves {n : Nat} (length : r.openFrames.length = n + 1) (calm : r.Calm)
    (clock : Clock) :
    let later := clock.advance (Frame.delay r.openFrames)
    ∃ root, exitMany (n + 1) clock r =
        (later, r.cleared, .done (some (r.complete later root).1)) ∧
      Frame.visits [] root = Frame.openVisits (Frame.leaveAll clock r.openFrames) := by
  induction n generalizing clock r with
  | zero =>
      rw [exitMany]
      have left := exits clock r
      generalize r.exit clock = exited at left
      cases left with
      | idle frames => simp [frames] at length
      | inner frames => simp [frames] at length
      | crash frames crashed =>
          rw [Calm, frames, List.forall_mem_cons] at calm
          exact absurd crashed (calm.1.ne_crashed _)
      | @root e cs frames =>
          refine ⟨.node (e.left clock) cs, ?_, ?_⟩
          · rw [frames, Operation.finalize_clock]
            rfl
          · rw [frames]
            rfl
  | succ n ih =>
      rw [exitMany]
      have left := exits clock r
      generalize r.exit clock = exited at left
      cases left with
      | idle frames => simp [frames] at length
      | root frames => simp [frames] at length
      | crash frames crashed =>
          rw [Calm, frames, List.forall_mem_cons] at calm
          exact absurd crashed (calm.1.ne_crashed _)
      | @inner e parent cs siblings outer frames =>
          rw [Calm, frames, List.forall_mem_cons, List.forall_mem_cons] at calm
          obtain ⟨-, rest⟩ := calm
          -- The rest is left later, with the frame now closed below its parent.
          let below : Recorder :=
            { r with
              openFrames := .node parent (siblings ++ [.node (e.left clock) cs]) :: outer
              depth := r.depth - 1 }
          have height : below.openFrames.length = n + 1 := by simpa [below, frames] using length
          have later : (e.op.finalize clock).1.advance (Frame.delay below.openFrames) =
              clock.advance (Frame.delay r.openFrames) := by
            rw [Operation.finalize_clock, Clock.advance_advance, frames]
            rfl
          obtain ⟨root, completed, tree⟩ := ih height
            (List.forall_mem_cons.mpr rest) (e.op.finalize clock).1
          rw [later] at completed
          refine ⟨root, ?_, ?_⟩
          · exact completed
          · rw [tree, frames]
            exact Frame.openVisits_attach _ _ _ _

theorem isDue_iff : r.isDue maxAge now ↔
    ∃ frame, r.top? = some frame ∧ maxAge ≤ now - frame.entry.span.start := by
  unfold isDue topAge?
  cases r.top? with
  | none => simp
  | some frame => simp

/-- The top frame of a trace that is due. -/
theorem top_of_due (due : r.isDue maxAge now) : ∃ e cs outer, r.openFrames = .node e cs :: outer := by
  obtain ⟨frame, top, -⟩ := isDue_iff.mp due
  obtain ⟨outer, frames⟩ := List.head?_eq_some_iff.mp top
  obtain ⟨e, cs⟩ := frame
  exact ⟨e, cs, outer, frames⟩

theorem length_markOverdue (r : Recorder) :
    r.markOverdue.openFrames.length = r.openFrames.length := by
  rw [openFrames_markOverdue, length_withOperation]

theorem isDone_unwind_iff :
    (r.unwind maxAge now clock).2.2.isDone ↔ (r.isDue maxAge now → r.Calm) := by
  cases due : r.isDue maxAge now with
  | false =>
      rw [unwind_of_not_due due]
      exact iff_of_true rfl nofun
  | true =>
      rw [unwind_of_due due, isDone_exitMany_iff (length_markOverdue r), calm_markOverdue]
      exact ⟨fun calm _ => calm, fun calm => calm rfl⟩

theorem overdue_markOverdue (r : Recorder) : r.markOverdue.hints.flag HintName.overdue := by
  change (Hints.set HintName.discard _ (Hints.set HintName.overdue _ r.hints)).flag _ = true
  rw [Hints.flag_set_of_ne _ (by decide), Hints.flag_set_self]

/-- Unwinding a trace that is due, unless a script crashes. -/
theorem unwind_of_calm (due : r.isDue maxAge now) (calm : r.Calm) (clock : Clock) :
    ∃ trace, r.unwind maxAge now clock =
        (clock.advance (Frame.delay r.markOverdue.openFrames), r.cleared, .done (some trace)) ∧
      Unwound clock r trace := by
  obtain ⟨e, cs, outer, frames⟩ := top_of_due due
  have marked := openFrames_overdue frames
  have length : r.markOverdue.openFrames.length = outer.length + 1 := by
    rw [marked, List.length_cons]
  obtain ⟨root, completed, tree⟩ := exitMany_leaves length
    ((calm_markOverdue r).mpr calm) clock
  rw [unwind_of_due due, frames, List.length_cons, completed]
  refine ⟨_, rfl, rfl, tree, ?_, ?_, e, cs, outer, frames, ?_, ?_⟩
  · change (Frame.visits [] root).map _ = _
    rw [tree, places_leaveAll, places_markOverdue]
  · exact settled_leaveAll ((calm_markOverdue r).mpr calm)
  · change _ ∈ Frame.visits [] root
    rw [tree, marked, Frame.leaveAll, Frame.openVisits_cons, map_id_leaveAll, Frame.visits_node]
    exact List.mem_append_right _ List.mem_cons_self
  · intro spares
    have waiting : e.overdue.op.Spares Operation.overdueKey := spares
    exact waiting.finalize.1.trans (Keyed.find?_insert_self _ _ _)

/-- A trace completed by unwinding has the hint of one overdue. -/
theorem overdue_unwound (unwound : (r.unwind maxAge now clock).2.2 = .done (some trace)) :
    trace.hints.flag HintName.overdue := by
  obtain ⟨due, -⟩ := unwind_completed unwound
  have answered : (r.unwind maxAge now clock).2.2.isDone := by
    rw [unwound]
    rfl
  obtain ⟨trace', same, shape⟩ := unwind_of_calm due (isDone_unwind_iff.mp answered due) clock
  rw [same] at unwound
  cases unwound
  rw [shape.completed]
  exact overdue_markOverdue r

end
end Recorder
end SpanCapture
