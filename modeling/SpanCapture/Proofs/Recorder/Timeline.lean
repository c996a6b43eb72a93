import SpanCapture.Proofs.Frame.Timeline
import SpanCapture.Proofs.Recorder.ClosedFrames

/-! A recorder stays timely: its open frames are timed up to the present, numbers increase in
the order of entering and stay below the counter, and what is closed has no script waiting.
Calls cut short by a crash keep this as well. So every completed root is finished. -/
namespace SpanCapture
namespace Frame

def ClosedSettled (frames : List Frame) : Prop := ∀ e ∈ closedIn frames, e.op.Settled

theorem idsIn_reverse_cons (frame : Frame) (outer : List Frame) :
    idsIn (frame :: outer).reverse = idsIn outer.reverse ++ idsIn [frame] := by
  rw [List.reverse_cons, idsIn_append]

theorem idsIn_reverse_unmarkedIn (frames : List Frame) :
    idsIn (unmarkedIn frames).reverse = idsIn frames.reverse := by
  rw [unmarkedIn_eq_map, ← List.map_reverse, ← unmarkedIn_eq_map, idsIn_unmarkedIn]

theorem idsIn_reverse_withoutIn {id : Nat} {frames : List Frame}
    (closed : ∀ frame ∈ frames, frame.id ≠ id) :
    (idsIn (withoutIn id frames).reverse).Sublist (idsIn frames.reverse) := by
  rw [idsIn, idsIn, ← map_entry_openVisits, ← map_entry_openVisits, openVisits_withoutIn closed]
  exact (List.filter_sublist.map _).map _

/-- A frame closed below the next one keeps its place among the numbers. -/
theorem idsIn_reverse_close {e e' p : FrameEntry} (cs siblings outer : List Frame)
    (same : e'.id = e.id) :
    idsIn (.node p (siblings ++ [.node e' cs]) :: outer).reverse =
      idsIn (.node e cs :: .node p siblings :: outer).reverse := by
  rw [idsIn_reverse_cons, idsIn_reverse_cons (.node e cs), idsIn_reverse_cons (.node p siblings)]
  simp only [idsIn_cons, idsIn_append, idsIn_nil, List.append_nil, same, List.append_assoc,
    List.cons_append]

theorem mem_idsIn_close {id : Nat} {e e' p : FrameEntry} (cs siblings outer : List Frame)
    (same : e'.id = e.id) :
    id ∈ idsIn (.node p (siblings ++ [.node e' cs]) :: outer) ↔
      id ∈ idsIn (.node e cs :: .node p siblings :: outer) := by
  rw [← mem_idsIn_reverse, idsIn_reverse_close cs siblings outer same, mem_idsIn_reverse]

end Frame

theorem FrameEntry.markless_settled : FrameEntry.Markless fun e => e.op.Settled :=
  fun x y same settled => by
    have pending : x.op.pending = y.op.pending := congrArg (·.op.pending) same
    exact pending.symm.trans settled

namespace Recorder

/-- The open frames fit the present, and the counter the open frames. -/
structure Timely (now : Nat) (r : Recorder) : Prop where
  timed : Frame.OpenTimed now r.openFrames
  increasing : (Frame.idsIn r.openFrames.reverse).Pairwise (· < ·)
  counted : ∀ id ∈ Frame.idsIn r.openFrames.reverse, id ≤ r.lastId
  settled : Frame.ClosedSettled r.openFrames

section
variable {now : Nat} {clock : Clock} {r r' : Recorder}

theorem Timely.idle (h : r.openFrames = []) : Timely now r := by
  refine ⟨?_, ?_, ?_, ?_⟩
  · rw [h]
    trivial
  · rw [h]
    exact .nil
  · rw [h]
    exact fun _ none => by cases none
  · rw [h]
    exact fun _ none => by cases none

theorem Timely.mono {later : Nat} (h : Timely now r) (more : now ≤ later) : Timely later r :=
  { h with timed := h.timed.mono more }

theorem Timely.congr (h : Timely now r) (frames : r'.openFrames = r.openFrames)
    (last : r.lastId ≤ r'.lastId) : Timely now r' :=
  ⟨frames ▸ h.timed, frames ▸ h.increasing,
    frames ▸ fun id member => Nat.le_trans (h.counted id member) last, frames ▸ h.settled⟩

theorem Timely.nodup (h : Timely now r) : (Frame.idsIn r.openFrames).Nodup :=
  Frame.nodup_idsIn_reverse.mp (h.increasing.imp Nat.ne_of_lt)

theorem Timely.le_lastId {id : Nat} (h : Timely now r) (member : id ∈ Frame.idsIn r.openFrames) :
    id ≤ r.lastId := h.counted id (Frame.mem_idsIn_reverse.mpr member)

theorem Timely.opens {op : Operation} (h : Timely clock.now r) (opens : Opens clock op r r') :
    Timely clock.now r' := by
  obtain ⟨e, outer, frames, entry, others⟩ := opens.frames
  have number : e.id = r.lastId + 1 := congrArg FrameEntry.id entry
  have span : e.span = .opened clock.now := congrArg FrameEntry.span entry
  have parent : e.parent = outer.head?.map Frame.id := by
    have link : e.parent = r.top?.map Frame.id := congrArg FrameEntry.parent entry
    rw [link, top?, ← List.head?_map, ← List.head?_map, ← Frame.map_id_unmarkedIn outer, others,
      Frame.map_id_unmarkedIn]
  have start : e.span.start = clock.now := by
    rw [span]
    rfl
  have ids : Frame.idsIn outer.reverse = Frame.idsIn r.openFrames.reverse := by
    rw [← Frame.idsIn_reverse_unmarkedIn outer, others, Frame.idsIn_reverse_unmarkedIn]
  have timed : Frame.OpenTimed clock.now outer := by
    rw [← Frame.openTimed_unmarkedIn, others, Frame.openTimed_unmarkedIn]
    exact h.timed
  have settled : r'.ClosedAll fun e => e.op.Settled :=
    ClosedAll.opens FrameEntry.markless_settled h.settled opens
  refine ⟨?_, ?_, ?_, ?_⟩
  · rw [frames]
    exact ⟨parent, Nat.le_of_eq start, start ▸ timed⟩
  · rw [frames, Frame.idsIn_reverse_cons, ids, Frame.idsIn_cons]
    refine List.pairwise_append.mpr ⟨h.increasing, List.pairwise_singleton _ _, ?_⟩
    intro id member last isLast
    rw [List.mem_singleton.mp isLast, number]
    exact Nat.lt_succ_of_le (h.counted id member)
  · rw [frames, Frame.idsIn_reverse_cons, ids, Frame.idsIn_cons, opens.lastId,
      List.forall_mem_append]
    refine ⟨fun id member => Nat.le_succ_of_le (h.counted id member), ?_⟩
    intro id member
    exact Nat.le_of_eq ((List.mem_singleton.mp member).trans number)
  · exact settled

theorem Timely.enter (h : Timely clock.now r) (op : Operation) :
    Timely clock.now (r.enter clock op).2 := by
  have fresh {r : Recorder} (h : Timely clock.now r) : Timely clock.now (r.enterFresh clock op).2 := by
    rcases enterFresh_cases clock op r with ⟨message, crashed⟩ | ⟨r', entered, opens⟩
    · rw [crashed]
      exact h.congr rfl (Nat.le_succ _)
    · rw [entered]
      exact h.opens opens
  unfold Recorder.enter
  split
  · exact fresh (.idle rfl)
  · exact fresh h

theorem Timely.withOperation (h : Timely now r) (f : Operation → Operation) :
    Timely now (r.withOperation f) := by
  have changed := changes f r
  generalize r.withOperation f = r' at changed
  cases changed with
  | idle => exact h
  | top frames =>
      obtain ⟨timed, increasing, counted, settled⟩ := h
      rw [frames] at timed increasing counted settled
      rw [Frame.idsIn_reverse_cons, Frame.idsIn_cons] at increasing counted
      refine ⟨timed, ?_, ?_, settled⟩
      · rwa [Frame.idsIn_reverse_cons, Frame.idsIn_cons]
      · rwa [Frame.idsIn_reverse_cons, Frame.idsIn_cons]

theorem now_le_act (clock : Clock) (action : Action) (r : Recorder) :
    clock.now ≤ (r.act clock action).1.now := by
  unfold Recorder.act
  split
  · exact Nat.le_refl _
  · exact Operation.now_le_act clock _ action

theorem now_le_exit (clock : Clock) (r : Recorder) : clock.now ≤ (r.exit clock).1.now := by
  have left := exits clock r
  generalize r.exit clock = exited at left
  cases left with
  | idle => exact Nat.le_refl _
  | crash => exact Operation.now_le_finalize clock _
  | root => exact Operation.now_le_finalize clock _
  | inner => exact Operation.now_le_finalize clock _

theorem Timely.tail {frame : Frame} {outer : List Frame} (h : Timely now r)
    (frames : r.openFrames = frame :: outer) : Timely now { r with openFrames := outer } := by
  obtain ⟨timed, increasing, counted, settled⟩ := h
  rw [frames] at timed increasing counted settled
  rw [Frame.idsIn_reverse_cons] at increasing counted
  exact ⟨timed.tail, (List.pairwise_append.mp increasing).1, (List.forall_mem_append.mp counted).1,
    (List.forall_mem_append.mp settled).2⟩

/-- The time of a frame that is left ends at the present. -/
theorem finish_left {e : FrameEntry} (started : e.span.start ≤ clock.now) :
    (e.left clock).span.finish = (e.op.finalize clock).1.now :=
  Nat.max_eq_left (Nat.le_trans started (Operation.now_le_finalize clock e.op))

theorem Timely.exit (h : Timely clock.now r) :
    Timely (r.exit clock).1.now (r.exit clock).2.1 := by
  have drained := ClosedAll.exit h.settled clock fun _ _ done => Operation.settled_finalize done
  have left := exits clock r
  generalize r.exit clock = exited at left drained
  cases left with
  | idle => exact h
  | crash frames crashed =>
      exact (h.tail frames).mono (Operation.now_le_finalize clock _)
  | root => exact .idle rfl
  | @inner e parent cs siblings outer frames =>
      obtain ⟨timed, increasing, counted, -⟩ := h
      rw [frames] at timed increasing counted
      have same : (e.left clock).id = e.id := rfl
      have ids := Frame.idsIn_reverse_close (p := parent) cs siblings outer same
      refine ⟨?_, ?_, ?_, ?_⟩
      · exact timed.close rfl rfl rfl (finish_left timed.2.1.le) (Operation.now_le_finalize clock _)
      · dsimp only
        rwa [ids]
      · dsimp only
        rwa [ids]
      · exact drained

/-- A completed root is finished. -/
theorem Timely.finished_exit {info : FrameEntry} {trace : CompletedTrace} (h : Timely clock.now r)
    (completed : (r.exit clock).2.2 = .done (some ⟨info, some trace⟩)) : trace.root.Finished := by
  have drained := ClosedAll.completed h.settled
    (fun _ _ done => Operation.settled_finalize done) completed
  have left := exits clock r
  generalize r.exit clock = exited at left completed
  cases left with
  | idle => cases completed
  | crash => cases completed
  | inner => cases completed
  | @root e cs frames finalized =>
      cases completed
      obtain ⟨timed, increasing, -, -⟩ := h
      rw [frames] at timed increasing
      obtain ⟨link, inner, -⟩ := timed
      refine ⟨⟨link, Nat.zero_le _, ?_⟩, ?_, drained⟩
      · have started : e.span.start ≤ clock.now := inner.le
        rw [finish_left started]
        exact inner.later (Operation.now_le_finalize clock _)
      · rw [Frame.idsIn_cons]
        rwa [Frame.idsIn_reverse_cons, Frame.idsIn_cons] at increasing

theorem Timely.discard (h : Timely now r) (id : Nat) : Timely now (r.discard id).2 := by
  have settled := ClosedAll.discard h.settled h.nodup id
  have discarded := discards id r
  generalize r.discard id = result at discarded settled
  cases discarded with
  | refused => exact h
  | root => exact h.congr rfl (Nat.le_refl _)
  | closed isRoot notRoot closed found clean pruned =>
      rw [Frame.prune_eq_withoutIn h.nodup pruned] at settled ⊢
      have sub := Frame.idsIn_reverse_withoutIn closed
      exact ⟨h.timed.withoutIn closed, h.increasing.sublist sub,
        fun id member => h.counted id (sub.subset member), settled⟩

theorem Timely.exitMany (h : Timely clock.now r) (n : Nat) :
    (clock.now ≤ (exitMany n clock r).1.now ∧
      Timely (exitMany n clock r).1.now (exitMany n clock r).2.1) ∧
      ∀ trace, (exitMany n clock r).2.2 = .done (some trace) → trace.root.Finished := by
  refine exitMany_keeps (P := fun later r => clock.now ≤ later.now ∧ Timely later.now r)
    (Q := fun trace => trace.root.Finished) ?_ ?_ n clock r ⟨Nat.le_refl _, h⟩
  · intro later r kept
    exact ⟨Nat.le_trans kept.1 (now_le_exit later r), kept.2.exit⟩
  · intro later r info trace kept completed
    exact kept.2.finished_exit completed

theorem Timely.markOverdue (h : Timely now r) : Timely now r.markOverdue :=
  (h.withOperation (Operation.put Operation.overdueKey (.bool true))).congr
    (openFrames_markOverdue r) (Nat.le_of_eq (lastId_withOperation _ r))

theorem Timely.unwind (h : Timely clock.now r) (maxAge now : Nat) :
    (clock.now ≤ (r.unwind maxAge now clock).1.now ∧
      Timely (r.unwind maxAge now clock).1.now (r.unwind maxAge now clock).2.1) ∧
      ∀ trace, (r.unwind maxAge now clock).2.2 = .done (some trace) → trace.root.Finished := by
  cases due : r.isDue maxAge now with
  | false =>
      rw [unwind_of_not_due due]
      exact ⟨⟨Nat.le_refl _, h⟩, nofun⟩
  | true =>
      rw [unwind_of_due due]
      exact h.markOverdue.exitMany _

/-- Every call keeps a recorder timely and moves the clock forward, if at all. -/
theorem Timely.step {s : Session} (h : Timely s.clock.now s.recorder) (call : Call) :
    s.clock.now ≤ (step s call).2.clock.now ∧
      Timely (step s call).2.clock.now (step s call).2.recorder := by
  have still := Nat.le_refl s.clock.now
  cases call with
  | enter op => exact ⟨still, h.enter op⟩
  | exit => exact ⟨now_le_exit s.clock s.recorder, h.exit⟩
  | discard id => exact ⟨still, h.discard id⟩
  | dump => exact ⟨still, .idle rfl⟩
  | setHint key value => exact ⟨still, h.congr rfl (Nat.le_refl _)⟩
  | setHintObject key object => exact ⟨still, h.congr rfl (Nat.le_refl _)⟩
  | setHintAtRoot key value =>
      refine ⟨still, ?_⟩
      simp only [Recorder.step, setHintAtRoot]
      split
      · exact h.congr rfl (Nat.le_refl _)
      · exact h
  | change f => exact ⟨still, h.withOperation f⟩
  | act action =>
      refine ⟨now_le_act s.clock action s.recorder, ?_⟩
      change Timely _ (s.recorder.act s.clock action).2.1
      rw [act_eq_withOperation]
      exact (h.withOperation _).mono (now_le_act s.clock action s.recorder)
  | unwind maxAge now => exact (h.unwind maxAge now).1
  | wait nanos => exact ⟨Nat.le_add_right _ _, h.mono (Nat.le_add_right _ _)⟩

/-- A timely recorder completes finished roots only. -/
theorem Timely.finished_step {s : Session} {call : Call} {trace : CompletedTrace}
    (h : Timely s.clock.now s.recorder)
    (completed : Answer.completed? (Recorder.step s call).1 = some trace) : trace.root.Finished := by
  rcases completed_cases completed with ⟨-, info, exited⟩ | ⟨maxAge, now, -, unwound⟩
  · exact h.finished_exit exited
  · exact (h.unwind maxAge now).2 trace unwound

end
end Recorder
end SpanCapture
