import SpanCapture.Proofs.Frame.Closed
import SpanCapture.Proofs.Recorder.Openings
import SpanCapture.Proofs.Recorder.Timeline

/-! Failures in the trace in progress. Who opens and leaves its frames knows which of them
were left with a failure; the recorder holds just those among its closed frames, whatever was
discarded in between. -/
namespace SpanCapture

/-- What its owner knows of a trace: the number of its root, the frames left, whether the root was
to be discarded, and which other frames were said to be gone. -/
structure TraceLog where
  root : Nat := 0
  left : List FrameEntry := []
  rootDiscarded : Bool := false
  taken : List Nat := []

namespace TraceLog

/-- A call to discard a frame. For the root the call alone counts, for another frame the answer:
only `true` says that it is gone. -/
def discard (frame : Nat) (done : Bool) (log : TraceLog) : TraceLog :=
  if frame = log.root then { log with rootDiscarded := true }
  else if done then { log with taken := frame :: log.taken }
  else log

def leave (info : FrameEntry) (log : TraceLog) : TraceLog := { log with left := info :: log.left }

end TraceLog

namespace Recorder

structure Logged (log : TraceLog) (r : Recorder) : Prop where
  root : r.root?.map Frame.id = some log.root
  failures : (Frame.failures (Frame.closedIn r.openFrames)).Perm (Frame.failures log.left)
  discarded : log.rootDiscarded → r.hints.flag HintName.discard
  taken : ∀ id ∈ log.taken, id ≤ r.lastId ∧ id ∉ Frame.idsIn r.openFrames

section
variable {clock : Clock} {op : Operation} {log : TraceLog} {r r' : Recorder}

theorem Opens.flag (opens : Opens clock op r r') {key : String} (apart : key ≠ HintName.aborted) :
    r'.hints.flag key = r.hints.flag key := by
  rcases opens.hints with same | more
  · rw [same]
  · rw [more, Hints.flag_set_of_ne _ apart]

theorem Opens.idsIn (opens : Opens clock op r r') :
    Frame.idsIn r'.openFrames = (r.lastId + 1) :: Frame.idsIn r.openFrames := by
  obtain ⟨e, outer, frames, entry, others⟩ := opens.frames
  have number : e.id = r.lastId + 1 := congrArg FrameEntry.id entry
  rw [frames, Frame.idsIn_cons, Frame.idsIn_nil, List.nil_append, number,
    Frame.ids_eq_of_unmarkedIn_eq others]

theorem Opens.failures (opens : Opens clock op r r') :
    Frame.failures (Frame.closedIn r'.openFrames) = Frame.failures (Frame.closedIn r.openFrames) := by
  obtain ⟨e, outer, frames, -, others⟩ := opens.frames
  rw [frames, Frame.closedIn_cons, Frame.entriesIn_nil, List.nil_append]
  exact Frame.failures_closedIn_congr others

theorem Opens.root (opens : Opens clock op r r') :
    r'.root?.map Frame.id = some ((r.root?.map Frame.id).getD (r.lastId + 1)) := by
  obtain ⟨e, outer, frames, entry, others⟩ := opens.frames
  have number : e.id = r.lastId + 1 := congrArg FrameEntry.id entry
  have outermost : outer.getLast?.map Frame.id = r.root?.map Frame.id := by
    rw [root?, ← List.getLast?_map, ← List.getLast?_map, ← Frame.map_id_unmarkedIn outer, others,
      Frame.map_id_unmarkedIn]
  rw [← outermost, root?, frames, List.getLast?_cons]
  cases outer.getLast? with
  | none => exact congrArg some number
  | some root => rfl

/-- The first frame of a trace starts its log. -/
theorem Logged.first (idle : r.openFrames = []) (opens : Opens clock op r r') :
    Logged { root := r.lastId + 1 } r' := by
  constructor
  · rw [opens.root, root?, idle]
    rfl
  · rw [opens.failures, idle]
    exact .nil
  · intro discarded
    cases discarded
  · intro id member
    cases member

theorem Logged.opens (h : Logged log r) (opens : Opens clock op r r') : Logged log r' := by
  constructor
  · rw [opens.root, h.root]
    rfl
  · rw [opens.failures]
    exact h.failures
  · intro discarded
    rw [opens.flag (by decide)]
    exact h.discarded discarded
  · intro id member
    obtain ⟨below, absent⟩ := h.taken id member
    rw [opens.lastId, opens.idsIn, List.mem_cons, not_or]
    exact ⟨Nat.le_succ_of_le below, Nat.ne_of_lt (Nat.lt_succ_of_le below), absent⟩

/-- Only frames, counter and the hint about the discarded root matter to a log. -/
theorem Logged.congr (h : Logged log r) (frames : r'.openFrames = r.openFrames)
    (last : r'.lastId = r.lastId)
    (hint : r'.hints.flag HintName.discard = r.hints.flag HintName.discard) : Logged log r' := by
  constructor
  · rw [root?, frames]
    exact h.root
  · rw [frames]
    exact h.failures
  · rw [hint]
    exact h.discarded
  · rw [frames, last]
    exact h.taken

theorem Logged.withOperation (h : Logged log r) (f : Operation → Operation) :
    Logged log (r.withOperation f) := by
  have changed := changes f r
  generalize r.withOperation f = r' at changed
  cases changed with
  | idle => exact h
  | top frames =>
      obtain ⟨root, failures, discarded, taken⟩ := h
      rw [root?, frames, ← List.getLast?_map] at root
      rw [frames] at failures taken
      rw [Frame.idsIn_cons] at taken
      constructor
      · rw [root?, ← List.getLast?_map]
        exact root
      · exact failures
      · exact discarded
      · rw [Frame.idsIn_cons]
        exact taken

theorem Logged.discard {now : Nat} (h : Logged log r) (timely : Timely now r) (id : Nat) :
    Logged (log.discard id (r.discard id).1) (r.discard id).2 := by
  obtain ⟨root, isRoot, number⟩ := Option.map_eq_some_iff.mp h.root
  by_cases own : id = log.root
  · rw [TraceLog.discard, if_pos own, own.trans number.symm, discard_root isRoot]
    exact ⟨h.root, h.failures, fun _ => Hints.flag_set_self HintName.discard true r.hints, h.taken⟩
  · rw [TraceLog.discard, if_neg own]
    have discarded := discards id r
    generalize r.discard id = result at discarded
    cases discarded with
    | refused => exact h
    | @root frame isRoot' here =>
        cases isRoot.symm.trans isRoot'
        exact absurd (here.symm.trans number) own
    | @closed _ target removed parent frames _ notRoot closed found clean pruned =>
        have left := Frame.prune_eq_withoutIn timely.nodup pruned
        have fewer := (Frame.entriesIn_withoutIn_sublist id r.openFrames).map FrameEntry.id
        subst left
        rw [if_pos rfl]
        constructor
        · rw [root?, ← List.getLast?_map, Frame.map_id_withoutIn closed, List.getLast?_map]
          exact h.root
        · rw [Frame.failures_withoutIn timely.nodup closed found clean]
          exact h.failures
        · exact h.discarded
        · refine List.forall_mem_cons.mpr ⟨⟨?_, Frame.not_mem_idsIn_withoutIn id _⟩, ?_⟩
          · exact timely.le_lastId (Frame.mem_idsIn_of_find found)
          · intro id member
            obtain ⟨below, absent⟩ := h.taken id member
            exact ⟨below, fun inside => absent (fewer.subset inside)⟩

theorem Logged.leave {info : FrameEntry} (h : Logged log r)
    (answered : (r.exit clock).2.2 = .done (some ⟨info, none⟩)) :
    Logged (log.leave info) (r.exit clock).2.1 := by
  have exited := exits clock r
  generalize r.exit clock = result at exited answered
  cases exited with
  | idle => cases answered
  | crash => cases answered
  | root => cases answered
  | @inner e parent cs siblings outer frames finalized =>
      cases answered
      obtain ⟨root, failures, discarded, taken⟩ := h
      rw [root?, frames, List.getLast?_cons_cons, ← List.getLast?_map] at root
      rw [frames] at failures taken
      constructor
      · rw [root?, ← List.getLast?_map]
        exact root
      · have closed := Frame.closedIn_close e (e.left clock) parent cs siblings outer
        exact (Frame.perm_failures closed).trans (Frame.perm_failures_cons _ failures)
      · exact discarded
      · intro id member
        obtain ⟨below, absent⟩ := taken id member
        exact ⟨below, mt (Frame.mem_idsIn_close cs siblings outer rfl).mp absent⟩

theorem exit_atRoot {left : Option Exited} (atRoot : r.atRoot)
    (answered : (r.exit clock).2.2 = .done left) : ∃ info trace, left = some ⟨info, some trace⟩ := by
  rw [Recorder.atRoot, beq_iff_eq] at atRoot
  have exited := exits clock r
  generalize r.exit clock = result at exited answered
  cases exited with
  | idle frames => simp [frames] at atRoot
  | crash => cases answered
  | root =>
      cases answered
      exact ⟨_, _, rfl⟩
  | inner frames => simp [frames] at atRoot

/-- What is answered about a frame left is how finalizing and closing leave the one on top. -/
theorem top_of_exited {left : Exited} (answered : (r.exit clock).2.2 = .done (some left)) :
    r.top?.map (·.entry.left clock) = some left.info := by
  have exited := exits clock r
  generalize r.exit clock = result at exited answered
  cases exited with
  | idle => cases answered
  | crash => cases answered
  | root frames =>
      cases answered
      rw [top?, frames]
      rfl
  | inner frames =>
      cases answered
      rw [top?, frames]
      rfl

/-- The failures in a completed trace are those it was left with. -/
theorem Logged.complete {info : FrameEntry} {trace : CompletedTrace} (h : Logged log r)
    (completed : (r.exit clock).2.2 = .done (some ⟨info, some trace⟩)) :
    trace.hints = r.hints ∧ trace.identity = r.identity ∧ trace.root.id = log.root ∧
      (Frame.failures (Frame.entriesIn [trace.root])).Perm (Frame.failures (info :: log.left)) ∧
      ∀ id ∈ log.taken, id ∉ Frame.idsIn [trace.root] := by
  have exited := exits clock r
  generalize r.exit clock = result at exited completed
  cases exited with
  | idle => cases completed
  | crash => cases completed
  | inner => cases completed
  | @root e cs frames finalized =>
      cases completed
      obtain ⟨root, failures, discarded, taken⟩ := h
      rw [root?, frames] at root
      rw [frames, Frame.closedIn_cons, Frame.closedIn_nil, List.append_nil] at failures
      refine ⟨rfl, rfl, Option.some.inj root, ?_, ?_⟩
      · rw [Frame.entriesIn_cons, Frame.entriesIn_nil, List.append_nil]
        exact Frame.perm_failures_cons _ failures
      · rw [frames, Frame.idsIn_cons] at taken
        rw [Frame.idsIn_cons]
        exact fun id member => (taken id member).2

/-- Nothing says the recorder is overdue, and its trace, if it has one, is as the log says. -/
structure Followed (log : TraceLog) (r : Recorder) : Prop where
  inTime : r.hints.flag HintName.overdue = false
  logged : r.openFrames ≠ [] → Logged log r

theorem Followed.logged_atRoot (h : Followed log r) (atRoot : r.atRoot) : Logged log r := by
  apply h.logged
  intro idle
  rw [Recorder.atRoot, idle] at atRoot
  cases atRoot

theorem Followed.cleared (log : TraceLog) (r : Recorder) : Followed log r.cleared :=
  ⟨rfl, fun busy => absurd rfl busy⟩

theorem Followed.enter {number : Nat} (h : Followed log r)
    (done : r.enter clock op = (.done number, r')) :
    Followed (if r.isBuilding && !r.isAborted then log else { root := number }) r' := by
  obtain ⟨rfl, opens⟩ := enter_done done
  have apart : HintName.overdue ≠ HintName.aborted := by decide
  cases aborted : r.isAborted with
  | true =>
      rw [aborted, if_pos rfl] at opens
      rw [Bool.not_true, Bool.and_false]
      constructor
      · rw [opens.flag apart]
        exact Hints.flag_retain h.inTime
      · exact fun _ => .first rfl opens
  | false =>
      rw [aborted, if_neg Bool.false_ne_true] at opens
      rw [Bool.not_false, Bool.and_true]
      constructor
      · rw [opens.flag apart]
        exact h.inTime
      · intro _
        cases frames : r.openFrames with
        | nil =>
            rw [isBuilding, frames]
            exact .first frames opens
        | cons frame outer =>
            rw [isBuilding, frames]
            exact (h.logged (by rw [frames]; exact List.cons_ne_nil _ _)).opens opens

theorem Followed.exit {left : Option Exited} (h : Followed log r)
    (answered : (r.exit clock).2.2 = .done left) :
    Followed (match r.top? with
      | some frame => log.leave (frame.entry.left clock)
      | none => log) (r.exit clock).2.1 := by
  have exited := exits clock r
  cases busy : r.openFrames with
  | nil =>
      rw [exit_idle clock r busy, top?, busy]
      exact h
  | cons frame outer =>
      have logged := h.logged (by rw [busy]; exact List.cons_ne_nil _ _)
      have leave (info : FrameEntry) (inner : (r.exit clock).2.2 = .done (some ⟨info, none⟩)) :
          Logged (log.leave info) (r.exit clock).2.1 := logged.leave inner
      generalize r.exit clock = result at exited answered leave
      cases exited with
      | idle none => cases none.symm.trans busy
      | crash => cases answered
      | root => exact .cleared _ r
      | inner frames =>
          rw [top?, frames]
          exact ⟨h.inTime, fun _ => leave _ rfl⟩

theorem Followed.discard {now : Nat} (h : Followed log r) (timely : Timely now r) (id : Nat) :
    Followed (log.discard id (r.discard id).1) (r.discard id).2 := by
  have logged (busy : r.openFrames ≠ []) := (h.logged busy).discard timely id
  have discarded := discards id r
  generalize r.discard id = result at discarded logged
  cases discarded with
  | refused => exact ⟨h.inTime, logged⟩
  | root =>
      refine ⟨?_, logged⟩
      exact (Hints.flag_set_of_ne _ (by decide) r.hints).trans h.inTime
  | closed isRoot =>
      refine ⟨h.inTime, fun _ => logged ?_⟩
      intro none
      rw [root?, none] at isRoot
      cases isRoot

theorem Followed.withOperation (h : Followed log r) (f : Operation → Operation) :
    Followed log (r.withOperation f) := by
  have logged := fun busy => (h.logged busy).withOperation f
  have changed := changes f r
  generalize r.withOperation f = r' at changed logged
  cases changed with
  | idle => exact h
  | top frames =>
      refine ⟨h.inTime, fun _ => logged ?_⟩
      rw [frames]
      exact List.cons_ne_nil _ _

/-- A hint that says nothing about discarding or being overdue. -/
theorem Followed.hint (h : Followed log r) (frames : r'.openFrames = r.openFrames)
    (last : r'.lastId = r.lastId)
    (same : ∀ key, key = HintName.overdue ∨ key = HintName.discard →
      r'.hints.flag key = r.hints.flag key) : Followed log r' := by
  constructor
  · rw [same _ (.inl rfl)]
    exact h.inTime
  · intro busy
    rw [frames] at busy
    exact (h.logged busy).congr frames last (same _ (.inr rfl))

end

end Recorder
end SpanCapture
