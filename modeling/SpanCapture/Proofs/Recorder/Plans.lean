import SpanCapture.Proofs.Endpoint.Ties
import SpanCapture.Proofs.Operation.Calm
import SpanCapture.Proofs.Recorder.Discarding

/-! What an open operation is called and which scripts wait in it. Neither marks nor properties
change this, so it is known of every open frame without knowing what else was recorded. Where the
scripts are calm and there is room, frames are opened and left in good order: nothing crashes, no
hint appears, and the frame left stands among the closed ones. -/
namespace SpanCapture

structure Plan where
  label : String
  pending : List (List Action)

def Operation.plan (op : Operation) : Plan := ⟨op.label, op.pending⟩

def Plan.Calm (plan : Plan) : Prop := ∀ script ∈ plan.pending, Action.calmAll script

instance (plan : Plan) : Decidable plan.Calm :=
  inferInstanceAs (Decidable (∀ script ∈ plan.pending, _ = true))

namespace AnalyzerRegister

def Quiet (register : AnalyzerRegister) : Prop :=
  ∀ analyzer ∈ register, ∀ op frame depth, (analyzer.locate op frame depth).isDone

theorem Quiet.located {register : AnalyzerRegister} (quiet : register.Quiet) (op : Operation)
    (frame depth : Nat) (above : List String) :
    ∃ candidate, register.locate op frame depth above = .done candidate := by
  rw [← Outcome.isDone_iff, locate, Outcome.isDone_map, best_isDone]
  intro analyzer asked
  exact quiet analyzer ((relevant_sublist op above register).subset asked) op frame depth

end AnalyzerRegister

namespace Recorder

def plans (r : Recorder) : List Plan := r.openFrames.map fun frame => frame.entry.op.plan

section
variable {clock : Clock} {op : Operation} {r r' : Recorder} {e p : FrameEntry}
  {cs siblings outer : List Frame}

theorem length_plans (r : Recorder) : r.plans.length = r.openFrames.length := List.length_map _

theorem plans_unmarked {a b : List Frame} (h : Frame.unmarkedIn a = Frame.unmarkedIn b) :
    (a.map fun frame => frame.entry.op.plan) = b.map fun frame => frame.entry.op.plan := by
  have strip (frames : List Frame) : (frames.map fun frame => frame.entry.op.plan) =
      (Frame.unmarkedIn frames).map fun frame => frame.entry.op.plan := by
    rw [Frame.unmarkedIn_eq_map, List.map_map]
    refine List.map_congr_left fun frame _ => ?_
    obtain ⟨e, cs⟩ := frame
    rfl
  rw [strip, h, ← strip]

theorem plans_opens (opens : Opens clock op r r') : r'.plans = op.plan :: r.plans := by
  obtain ⟨e, outer, frames, entry, others⟩ := opens.frames
  have own : e.op.plan = op.plan := congrArg (fun e => e.op.plan) entry
  rw [plans, frames, List.map_cons, plans_unmarked others]
  exact congrArg (· :: r.plans) own

theorem plans_withOperation {f : Operation → Operation} (same : ∀ op, (f op).plan = op.plan)
    (r : Recorder) : (r.withOperation f).plans = r.plans := by
  have changed := changes f r
  generalize r.withOperation f = r' at changed
  cases changed with
  | idle => rfl
  | top frames =>
      rw [plans, plans, frames]
      exact congrArg (· :: _) (same _)

theorem plans_discard (id : Nat) (r : Recorder) : (r.discard id).2.plans = r.plans := by
  have discarded := discards id r
  generalize r.discard id = result at discarded
  cases discarded with
  | refused => rfl
  | root => rfl
  | closed isRoot notRoot closed found clean pruned =>
      have same := congrArg (List.map fun e : FrameEntry => e.op.plan) (entry_pruned pruned)
      rw [List.map_map, List.map_map] at same
      exact same

theorem hints_push (room : r.frameCount ≤ r.limits.maxFrames) (e : FrameEntry) :
    (r.push e).hints = r.hints := by
  unfold push
  dsimp only
  rw [if_neg fun full => Nat.not_lt.mpr room full.1]

theorem frameCount_consider (candidate : Option Endpoint) (e : FrameEntry) (r : Recorder) :
    (r.consider candidate e).2.frameCount = r.frameCount := by
  have considered := considers candidate e r
  generalize r.consider candidate e = result at considered
  cases considered with
  | kept => rfl
  | moved =>
      dsimp only
      rw [unmark_eq]

theorem isDone_enterFresh (quiet : r.analyzers.Quiet) (clock : Clock) (op : Operation) :
    (r.enterFresh clock op).1.isDone := by
  obtain ⟨candidate, located⟩ := quiet.located op (r.lastId + 1) (r.depth + 1) r.openKinds
  unfold enterFresh
  dsimp only
  split
  · rename_i message crashed
    exact absurd (located.symm.trans crashed) nofun
  · rfl

theorem hints_enterFresh (room : r.frameCount < r.limits.maxFrames) (clock : Clock)
    (op : Operation) : (r.enterFresh clock op).2.hints = r.hints := by
  unfold enterFresh
  dsimp only
  split
  · rfl
  · rename_i candidate _
    obtain ⟨-, -, -, hints, limits, -⟩ := consider_cases candidate
      (.opened (r.countEntry clock).lastId (r.top?.map Frame.id) op clock.now) (r.countEntry clock)
    rw [hints_push, hints]
    · rfl
    · rw [frameCount_consider, limits]
      exact room

/-- Where no analyzer crashes, entering is answered. -/
theorem isDone_enter (quiet : r.analyzers.Quiet) (sound : r.isAborted = false) (clock : Clock)
    (op : Operation) : (r.enter clock op).1.isDone := by
  have fresh : r.enter clock op = r.enterFresh clock op :=
    congrArg (enterFresh clock op) (if_neg (Bool.eq_false_iff.mp sound))
  rw [fresh]
  exact isDone_enterFresh quiet clock op

/-- Where a frame may still be opened, an answer means that it is. -/
theorem enter_of_room (sound : r.isAborted = false) (room : r.frameCount < r.limits.maxFrames)
    (answered : (r.enter clock op).1.isDone) :
    ∃ candidate r', r.enter clock op = (.done (r.lastId + 1), r') ∧
      Enters clock op candidate r r' ∧ r'.hints = r.hints := by
  have fresh : r.enter clock op = r.enterFresh clock op :=
    congrArg (enterFresh clock op) (if_neg (Bool.eq_false_iff.mp sound))
  have hints := hints_enterFresh room clock op
  rw [fresh] at answered ⊢
  rcases enterFresh_cases clock op r with ⟨message, crashed⟩ | ⟨r', entered, -⟩
  · rw [crashed] at answered
    cases answered
  · obtain ⟨-, candidate, enters⟩ := enterFresh_enters entered
    rw [entered] at hints
    exact ⟨candidate, r', entered, enters, hints⟩

/-- Leaving a calm frame below the root closes it under the next one. -/
theorem exit_below (frames : r.openFrames = .node e cs :: .node p siblings :: outer)
    (calm : e.op.Calm) (clock : Clock) :
    r.exit clock = ((e.op.finalize clock).1,
      { r with
        openFrames := .node p (siblings ++ [.node (e.left clock) cs]) :: outer
        depth := r.depth - 1 },
      .done (some { info := e.left clock })) := by
  have left := exits clock r
  generalize r.exit clock = result at left
  cases left with
  | idle none => rw [frames] at none; cases none
  | crash same crashed =>
      rw [frames] at same
      cases same
      exact absurd crashed (calm.ne_crashed _)
  | root same => rw [frames] at same; cases same
  | inner same =>
      rw [frames] at same
      cases same
      rfl

/-- Leaving a calm root completes its trace, and the recorder is as it was made. -/
theorem exit_last (frames : r.openFrames = [.node e cs]) (calm : e.op.Calm) (clock : Clock) :
    r.exit clock = ((e.op.finalize clock).1, r.cleared,
      .done (some { info := e.left clock, completed := some {
        root := .node (e.left clock) cs, hints := r.hints, endpoint := r.endpoint
        start := r.start.getD (e.op.finalize clock).1.instant, identity := r.identity } })) := by
  have left := exits clock r
  generalize r.exit clock = result at left
  cases left with
  | idle none => rw [frames] at none; cases none
  | crash same crashed =>
      rw [frames] at same
      cases same
      exact absurd crashed (calm.ne_crashed _)
  | root same =>
      rw [frames] at same
      cases same
      rfl
  | inner same => rw [frames] at same; cases same

end

end Recorder
end SpanCapture
