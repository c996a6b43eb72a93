import SpanCapture.Proofs.Frame.Closed
import SpanCapture.Proofs.Recorder.Calls

/-! Closed frames stay as they were closed, up to their endpoint mark. So a statement that does not
look at the mark holds of all closed frames of a recorder if it holds of each frame when it is
closed: by a call to exit that on top, by the watchdog all that are open. -/
namespace SpanCapture

def FrameEntry.Markless (Q : FrameEntry → Prop) : Prop :=
  ∀ x y : FrameEntry, x.unmarked = y.unmarked → Q x → Q y

theorem Frame.closedIn_of_same_unmarked {Q : FrameEntry → Prop} (markless : FrameEntry.Markless Q)
    {a b : List Frame} (same : unmarkedIn b = unmarkedIn a) (h : ∀ e ∈ closedIn a, Q e) :
    ∀ e ∈ closedIn b, Q e := by
  intro y member
  have known : y.unmarked ∈ (closedIn a).map FrameEntry.unmarked := by
    rw [← closedIn_unmarkedIn, ← same, closedIn_unmarkedIn]
    exact List.mem_map_of_mem member
  obtain ⟨x, inside, alike⟩ := List.mem_map.mp known
  exact markless x y alike (h x inside)

namespace Recorder

/-- A statement about all frames that were closed below open ones. -/
def ClosedAll (Q : FrameEntry → Prop) (r : Recorder) : Prop :=
  ∀ e ∈ Frame.closedIn r.openFrames, Q e

section
variable {Q : FrameEntry → Prop} {clock : Clock} {r r' : Recorder}

theorem ClosedAll.idle (frames : r.openFrames = []) : r.ClosedAll Q := by
  rw [ClosedAll, frames]
  exact List.forall_mem_nil _

theorem ClosedAll.of_same (h : r.ClosedAll Q) (frames : r'.openFrames = r.openFrames) :
    r'.ClosedAll Q := by
  rw [ClosedAll, frames]
  exact h

theorem ClosedAll.opens {op : Operation} (markless : FrameEntry.Markless Q) (h : r.ClosedAll Q)
    (opens : Opens clock op r r') : r'.ClosedAll Q := by
  obtain ⟨e, outer, frames, -, others⟩ := opens.frames
  rw [ClosedAll, frames, Frame.closedIn_cons, Frame.entriesIn_nil, List.nil_append]
  exact Frame.closedIn_of_same_unmarked markless others h

theorem ClosedAll.enter (markless : FrameEntry.Markless Q) (h : r.ClosedAll Q) (op : Operation) :
    (r.enter clock op).2.ClosedAll Q := by
  have fresh {r : Recorder} (h : r.ClosedAll Q) : (r.enterFresh clock op).2.ClosedAll Q := by
    rcases enterFresh_cases clock op r with ⟨message, crashed⟩ | ⟨r', entered, opens⟩
    · rw [crashed]
      exact h
    · rw [entered]
      exact h.opens markless opens
  unfold Recorder.enter
  split
  · exact fresh (.idle rfl)
  · exact fresh h

theorem ClosedAll.withOperation (h : r.ClosedAll Q) (f : Operation → Operation) :
    (r.withOperation f).ClosedAll Q := by
  have changed := changes f r
  generalize r.withOperation f = r' at changed
  cases changed with
  | idle => exact h
  | top frames =>
      rw [ClosedAll, frames] at h
      exact h

theorem ClosedAll.discard (h : r.ClosedAll Q) (unique : (Frame.idsIn r.openFrames).Nodup)
    (id : Nat) : (r.discard id).2.ClosedAll Q := by
  have discarded := discards id r
  generalize r.discard id = result at discarded
  cases discarded with
  | refused => exact h
  | root => exact h
  | closed isRoot notRoot closed found clean pruned =>
      rw [Frame.prune_eq_withoutIn unique pruned]
      exact fun e member => h e ((Frame.closedIn_withoutIn_sublist closed).subset member)

/-- The frame on top is closed below the next one, or lost with all below it. -/
theorem ClosedAll.exit (h : r.ClosedAll Q) (clock : Clock)
    (top : ∀ frame, r.top? = some frame → (frame.entry.op.finalize clock).2.2.isDone →
      Q (frame.entry.left clock)) :
    (r.exit clock).2.1.ClosedAll Q := by
  have left := exits clock r
  generalize r.exit clock = exited at left
  cases left with
  | idle => exact h
  | crash frames =>
      rw [ClosedAll, frames] at h
      exact fun e member => h e (List.mem_append_right _ member)
  | root => exact .idle rfl
  | @inner e parent cs siblings outer frames finalized =>
      rw [top?, frames] at top
      rw [ClosedAll, frames] at h
      intro x member
      have perm := Frame.closedIn_close e (e.left clock) parent cs siblings outer
      rcases List.mem_cons.mp (perm.mem_iff.mp member) with rfl | before
      · exact top (.node e cs) rfl (Outcome.isDone_iff.mpr ⟨(), finalized⟩)
      · exact h x before

/-- A completed root has the frame closed last and those closed before. -/
theorem ClosedAll.completed {info : FrameEntry} {trace : CompletedTrace} (h : r.ClosedAll Q)
    (top : ∀ frame, r.top? = some frame → (frame.entry.op.finalize clock).2.2.isDone →
      Q (frame.entry.left clock))
    (answered : (r.exit clock).2.2 = .done (some ⟨info, some trace⟩)) :
    ∀ e ∈ Frame.entriesIn [trace.root], Q e := by
  have left := exits clock r
  generalize r.exit clock = exited at left answered
  cases left with
  | idle => cases answered
  | crash => cases answered
  | inner => cases answered
  | @root e cs frames finalized =>
      cases answered
      rw [top?, frames] at top
      rw [ClosedAll, frames] at h
      rw [Frame.entriesIn_cons, Frame.entriesIn_nil, List.append_nil, List.forall_mem_cons]
      exact ⟨top (.node e cs) rfl (Outcome.isDone_iff.mpr ⟨(), finalized⟩),
        fun x member => h x (List.mem_append_left _ member)⟩

/-- The frames still open after an exit have been open before, up to what was closed below them. -/
theorem entry_of_exit {frame : Frame} (member : frame ∈ (r.exit clock).2.1.openFrames) :
    ∃ before ∈ r.openFrames, before.entry = frame.entry := by
  have left := exits clock r
  generalize r.exit clock = exited at left member
  cases left with
  | idle => exact ⟨frame, member, rfl⟩
  | crash frames =>
      rw [frames]
      exact ⟨frame, List.mem_cons_of_mem _ member, rfl⟩
  | root => cases member
  | @inner e parent cs siblings outer frames =>
      rw [frames]
      rcases List.mem_cons.mp member with rfl | below
      · exact ⟨.node parent siblings, List.mem_cons_of_mem _ List.mem_cons_self, rfl⟩
      · exact ⟨frame, List.mem_cons_of_mem _ (List.mem_cons_of_mem _ below), rfl⟩

/-- Unwinding closes open frames as they are once that on top has been marked. -/
theorem ClosedAll.unwind (h : r.ClosedAll Q) (maxAge now : Nat)
    (every : ∀ frame ∈ r.markOverdue.openFrames, ∀ later,
      (frame.entry.op.finalize later).2.2.isDone → Q (frame.entry.left later)) :
    (r.unwind maxAge now clock).2.1.ClosedAll Q := by
  cases due : r.isDue maxAge now with
  | false =>
      rw [unwind_of_not_due due]
      exact h
  | true =>
      have marked : r.markOverdue.ClosedAll Q :=
        (h.withOperation (Operation.put Operation.overdueKey (.bool true))).of_same
          (openFrames_markOverdue r)
      rw [unwind_of_due due]
      refine (exitMany_keeps (Q := fun _ => True) (P := fun _ r => r.ClosedAll Q ∧
        ∀ frame ∈ r.openFrames, ∀ later,
          (frame.entry.op.finalize later).2.2.isDone → Q (frame.entry.left later))
        ?_ (fun _ _ _ _ _ _ => trivial) _ clock r.markOverdue ⟨marked, every⟩).1.1
      intro clock r ⟨closed, open'⟩
      refine ⟨closed.exit clock fun frame top => open' frame (List.mem_of_mem_head? top) clock, ?_⟩
      intro frame member later
      obtain ⟨before, inside, same⟩ := entry_of_exit member
      exact same ▸ open' before inside later

/-- Every call keeps what it keeps of the frames it closes. -/
theorem ClosedAll.step {s : Session} (markless : FrameEntry.Markless Q)
    (unique : (Frame.idsIn s.recorder.openFrames).Nodup) (h : s.recorder.ClosedAll Q) (call : Call)
    (top : call = .exit → ∀ frame, s.recorder.top? = some frame →
      (frame.entry.op.finalize s.clock).2.2.isDone → Q (frame.entry.left s.clock))
    (every : ∀ maxAge now, call = .unwind maxAge now → ∀ frame ∈ s.recorder.markOverdue.openFrames,
      ∀ later, (frame.entry.op.finalize later).2.2.isDone → Q (frame.entry.left later)) :
    (Recorder.step s call).2.recorder.ClosedAll Q := by
  cases call with
  | enter op => exact h.enter markless op
  | exit => exact h.exit s.clock (top rfl)
  | discard id => exact h.discard unique id
  | dump => exact .idle rfl
  | setHint key value => exact h
  | setHintObject key object => exact h
  | setHintAtRoot key value =>
      simp only [Recorder.step, setHintAtRoot]
      split <;> exact h
  | change f => exact h.withOperation f
  | act action =>
      change (s.recorder.act s.clock action).2.1.ClosedAll Q
      rw [act_eq_withOperation]
      exact h.withOperation _
  | unwind maxAge now => exact h.unwind maxAge now (every maxAge now rfl)
  | wait nanos => exact h

end
end Recorder
end SpanCapture
