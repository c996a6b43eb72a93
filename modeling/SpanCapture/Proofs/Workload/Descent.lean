import Mathlib.Algebra.Ring.Nat
import SpanCapture.Proofs.Workload.Leaves

/-! The calls of a workload below a root. What a piece of the workload does is stated in one form:
from any run at work with room for so many frames it comes to a run at work with the same frames
open, holds at most so many frames more, and if no probe was rejected it entered just so many and
ran so many leaves; or an analyzer has crashed and stopped it. Pieces follow one another, a call
contains the calls below it, and so the form goes up from the leaves to all that is done below a
root. -/
namespace SpanCapture
namespace Workload

/-- How many calls are made below one so many levels above the leaves. -/
def callsBelow (w : Workload) : Nat → Nat
  | 0 => 0
  | levels + 1 => w.fanout * (1 + w.callsBelow levels)

/-- Unless a probe was rejected, whole groups of leaves were run, and so many leaves more. -/
def Placed (w : Workload) (offset : Nat) (run : WorkloadRun) : Prop :=
  run.report.skipped = 0 → ∃ groups, run.leaves = groups * w.fanout + offset

def Stopped (first : Service) (run : WorkloadRun) : Prop :=
  run.crash.isSome ∧ ¬first.analyzers.Quiet

/-- From every run at work that is ready for it, a piece of the workload comes to a run at work, or
was stopped. -/
def Works (w : Workload) (first : Service) (context : Nat) (plans : List Plan) (hints : Hints)
    (shipped calls leaves : Nat) (ready : WorkloadRun → Prop)
    (piece : WorkloadRun → WorkloadRun) : Prop :=
  ∀ r run, Working w first context plans hints shipped r run →
    r.frameCount + calls ≤ first.config.maxFrames → ready run →
    Stopped first (piece run) ∨
      ∃ r', Working w first context plans hints shipped r' (piece run) ∧
        r'.frameCount ≤ r.frameCount + calls ∧ Advances calls leaves run (piece run)

/-- A piece of the workload that does nothing once the run was stopped. -/
def Heeds (piece : WorkloadRun → WorkloadRun) : Prop := ∀ run, run.crash.isSome → piece run = run

/-- All that a call can come to, before what is done inside it. -/
inductive Steps (w : Workload) (first : Service) (context : Nat) (plans : List Plan) (hints : Hints)
    (shipped : Nat) (op : Operation) (r : Recorder) (run : WorkloadRun)
    (inside : Nat → WorkloadRun → WorkloadRun) (result : WorkloadRun) : Prop
  | stopped : Stopped first result → Steps w first context plans hints shipped op r run inside result
  | rejected : Working w first context plans hints shipped r result →
      (∀ calls leaves, Advances calls leaves run result) →
      Steps w first context plans hints shipped op r run inside result
  | entered {number : Nat} {r' : Recorder} {run' : WorkloadRun} {e : FrameEntry}
      {outer : List Frame} : result = inside number run' →
      Working w first context (op.plan :: plans) hints shipped r' run' → Advances 1 0 run run' →
      r'.frameCount = r.frameCount + 1 → r'.openFrames = .node e [] :: outer → e.id = number →
      e.op.plan = op.plan → e.op.hasException = op.hasException →
      Steps w first context plans hints shipped op r run inside result

section
variable {w : Workload} {first s' : Service} {context : Nat} {plan below : Plan} {plans : List Plan}
  {hints : Hints} {shipped calls leaves calls' leaves' request level child number : Nat}
  {r : Recorder} {run run' : WorkloadRun} {op : Operation} {piece piece' : WorkloadRun → WorkloadRun}
  {ready ready' : WorkloadRun → Prop}

theorem Working.probed (h : Working w first context plans hints shipped r run) (probe : Probe) :
    Working w first context plans hints shipped r
      { run with service := (run.service.shouldCollect context probe).2 } :=
  ⟨⟨h.going, h.frames, h.failures, h.discarded⟩, h.tracing.probed probe,
    h.still.trans (Service.undelivered_probe context probe run.service)⟩

theorem Working.skipped (h : Working w first context plans hints shipped r run) :
    Working w first context plans hints shipped r run.skip :=
  ⟨⟨h.going, h.frames, h.failures, fun none => absurd none (Nat.succ_ne_zero _)⟩, h.tracing, h.still⟩

theorem advances_skip (calls leaves : Nat) (s' : Service) (run : WorkloadRun) :
    Advances calls leaves run ({ run with service := s' } : WorkloadRun).skip :=
  ⟨rfl, Nat.le_succ _, fun none => absurd none (Nat.succ_ne_zero _)⟩

/-- A frame is opened and counted. -/
theorem Working.entered (h : Working w first context (plan :: plans) hints shipped r run)
    (sound : hints.flag HintName.aborted = false) (room : r.frameCount < first.config.maxFrames)
    (answered : (run.service.enter context op).1.isDone) :
    ∃ number r' s' e outer, run.service.enter context op = (.done number, s') ∧
      Working w first context (op.plan :: plan :: plans) hints shipped r'
        ({ run with service := s' } : WorkloadRun).countEntered ∧
      r'.frameCount = r.frameCount + 1 ∧ r'.openFrames = .node e [] :: outer ∧ e.id = number ∧
      e.op.plan = op.plan ∧ e.op.hasException = op.hasException := by
  obtain ⟨number, r', s', e, outer, entered, still, tracing, count, top, same, own, clean⟩ :=
    h.tracing.entered sound (h.still.config ▸ room) answered
  refine ⟨number, r', s', e, outer, entered, ⟨⟨h.going, ?_, h.failures, h.discarded⟩, tracing,
    h.still.trans still⟩, count, top, same, own, clean⟩
  have frames := h.frames
  change shipped + r'.frameCount + run.report.discarded = run.report.entered + 1
  omega

theorem advances_entered (s' : Service) (run : WorkloadRun) :
    Advances 1 0 run ({ run with service := s' } : WorkloadRun).countEntered :=
  ⟨rfl, Nat.le_refl _, fun _ => ⟨rfl, rfl⟩⟩

/-- The frame on top is left. -/
theorem Working.left (h : Working w first context (plan :: below :: plans) hints shipped r run)
    (calm : plan.Calm) :
    ∃ r', Working w first context (below :: plans) hints shipped r' (run.leave context) ∧
      r'.frameCount = r.frameCount ∧ Advances 0 0 run (run.leave context) := by
  obtain ⟨info, r', s', exited, still, tracing, count, -⟩ := h.tracing.left calm
  have leave : run.leave context = { run with service := s' } := by
    rw [WorkloadRun.leave, exited]
    rfl
  rw [leave]
  exact ⟨r', ⟨⟨h.going, count ▸ h.frames, h.failures, h.discarded⟩, tracing, h.still.trans still⟩,
    count, rfl, Nat.le_refl _, fun _ => ⟨rfl, rfl⟩⟩

theorem Placed.advance {offset : Nat} (placed : w.Placed offset run)
    (advances : Advances calls leaves run run') : w.Placed (offset + leaves) run' := by
  intro none
  obtain ⟨groups, start⟩ := placed (advances.unskipped none)
  exact ⟨groups, by rw [(advances.exact none).2, start, Nat.add_assoc]⟩

/-- One piece after another. -/
theorem Works.andThen (one : Works w first context plans hints shipped calls leaves ready piece)
    (next : Works w first context plans hints shipped calls' leaves' ready' piece')
    (heeds : Heeds piece')
    (carry : ∀ run run', ready run → Advances calls leaves run run' → ready' run') :
    Works w first context plans hints shipped (calls + calls') (leaves + leaves') ready
      fun run => piece' (piece run) := by
  intro r run working room isReady
  dsimp only
  rcases one r run working (by omega) isReady with stopped | ⟨r', working', held, advances⟩
  · rw [heeds _ stopped.1]
    exact .inl stopped
  · rcases next r' (piece run) working' (by omega) (carry run _ isReady advances) with
      stopped | ⟨r'', working'', held', advances'⟩
    · exact .inl stopped
    · exact .inr ⟨r'', working'', by omega, advances.trans advances'⟩

theorem calm_call (w : Workload) (request level child : Nat) :
    (w.call request level child).2.plan.Calm := by
  unfold call
  split
  · exact nofun
  · split
    · exact List.forall_mem_singleton.mpr rfl
    · exact nofun

theorem clean_call (w : Workload) (request level child : Nat) :
    (w.call request level child).2.hasException = false := by
  unfold call
  split
  · rfl
  · split
    · change (Operation.put "db.rows" (.int (Int64.ofNat (request * 10 + child)))
        { kind := "sql", label := "SELECT orders" }).hasException = false
      rw [Operation.hasException_put_of_ne (by decide)]
      rfl
    · rfl

theorem rowless_fail (message : String) (op : Operation) :
    rowless (op.fail message) = rowless op := by
  unfold rowless Attributes.getInt? Operation.fail
  rw [Operation.props_put, Keyed.find?_insert_of_ne _ (by decide)]

/-- A query says of its rows what can be read from it when it is finalized, failed or not. -/
theorem finalize_query {op : Operation} (clock : Clock)
    (made : op = query request child ∨ ∃ message, op = (query request child).fail message) :
    op.finalize clock =
      (clock, { op.put "db.empty" (.bool (rowless op)) with rich := [], pending := [] },
        .done ()) := by
  have pending : op.pending = [[.put "db.empty" (.bool (rowless op))]] := by
    rcases made with rfl | ⟨message, rfl⟩
    · rfl
    · rw [rowless_fail]
      rfl
  simp [Operation.finalize, Operation.run, pending, Task.batch, Task.ofScript, Operation.apply,
    Operation.put, Outcome.map]

/-- Nothing is pending in a look-up. -/
theorem pending_lookUp (odd : child % 2 = 1) : (w.call request w.depth child).2.pending = [] := by
  have other : ¬child % 2 = 0 := by omega
  rw [call, if_neg (not_not_intro rfl), if_neg other]

theorem step_rejected (going : run.crash = none) {below : WorkloadRun → WorkloadRun}
    (rejected :
      (run.service.shouldCollect context (w.call request level child).1).1.1 = false) :
    w.step context request level below run child =
      ({ run with
        service := (run.service.shouldCollect context (w.call request level child).1).2 } :
          WorkloadRun).skip := by
  rw [step, WorkloadRun.unlessStopped_of_going going]
  dsimp only
  rw [rejected]
  rfl

theorem step_crashed {message : String} (going : run.crash = none)
    {below : WorkloadRun → WorkloadRun}
    (collected :
      (run.service.shouldCollect context (w.call request level child).1).1.1 = true)
    (crashed : (run.service.shouldCollect context (w.call request level child).1).2.enter context
      (w.call request level child).2 = (.crashed message, s')) :
    w.step context request level below run child =
      { run with service := s', crash := some message } := by
  rw [step, WorkloadRun.unlessStopped_of_going going]
  dsimp only
  rw [collected, Bool.not_true, if_neg Bool.false_ne_true, crashed]

theorem step_collected (going : run.crash = none) {below : WorkloadRun → WorkloadRun}
    (collected :
      (run.service.shouldCollect context (w.call request level child).1).1.1 = true)
    (entered : (run.service.shouldCollect context (w.call request level child).1).2.enter context
      (w.call request level child).2 = (.done number, s')) :
    w.step context request level below run child =
      let run := ({ run with service := s' } : WorkloadRun).countEntered
      if level = w.depth then w.leaf context child number run
      else (below run).unlessStopped (·.leave context) := by
  rw [step, WorkloadRun.unlessStopped_of_going going]
  dsimp only
  rw [collected, Bool.not_true, if_neg Bool.false_ne_true, entered]

/-- A call is rejected by its probe, or stopped by an analyzer, or entered. -/
theorem Working.steps (h : Working w first context (plan :: plans) hints shipped r run)
    (sound : hints.flag HintName.aborted = false) (room : r.frameCount < first.config.maxFrames)
    (below : WorkloadRun → WorkloadRun) :
    Steps w first context (plan :: plans) hints shipped (w.call request level child).2 r run
      (fun number run =>
        if level = w.depth then w.leaf context child number run
        else (below run).unlessStopped (·.leave context))
      (w.step context request level below run child) := by
  have probed := h.probed (w.call request level child).1
  cases verdict : (run.service.shouldCollect context (w.call request level child).1).1.1 with
  | false =>
      rw [step_rejected h.going verdict]
      exact .rejected probed.skipped fun _ _ => advances_skip _ _ _ _
  | true =>
      rcases probed.tracing.answers sound (w.call request level child).2 with
        answered | ⟨message, s', crashed, loud⟩
      · obtain ⟨number, r', s', e, outer, entered, working, count, top, same, own, clean⟩ :=
          probed.entered sound room answered
        exact .entered (step_collected h.going verdict entered) working (advances_entered s' run)
          count top same own clean
      · rw [step_crashed h.going verdict crashed]
        exact .stopped ⟨rfl, probed.still.analyzers ▸ loud⟩

/-- A leaf is rejected by its probe, or entered and run. -/
theorem works_leaf (sound : hints.flag HintName.aborted = false)
    {below : WorkloadRun → WorkloadRun} :
    Works w first context (plan :: plans) hints shipped 1 1
      (fun run => run.report.skipped = 0 → run.leaves % w.fanout = child)
      (w.step context request w.depth below · child) := by
  intro r run working room place
  dsimp only
  cases working.steps sound room below with
  | stopped stopped => exact .inl stopped
  | rejected working advances => exact .inr ⟨r, working, Nat.le_succ _, advances 1 1⟩
  | entered result working₁ entered count top same own clean =>
      rw [result, if_pos rfl]
      obtain ⟨r₂, working₂, held, advances⟩ := working₁.leaf top same own (calm_call w _ _ _)
        (clean.trans (clean_call w _ _ _)) pending_lookUp (by
          intro none
          rw [(entered.exact none).2]
          exact place (entered.unskipped none))
      exact .inr ⟨r₂, working₂, by omega, entered.trans advances⟩

/-- A call above the leaves is rejected by its probe, or entered and left after the calls below. -/
theorem Works.call (sound : hints.flag HintName.aborted = false) (inner : level ≠ w.depth)
    {below : WorkloadRun → WorkloadRun}
    (works : Works w first context ((w.call request level child).2.plan :: plan :: plans) hints
      shipped calls leaves (w.Placed 0) below) :
    Works w first context (plan :: plans) hints shipped (1 + calls) leaves (w.Placed 0)
      (w.step context request level below · child) := by
  intro r run working room placed
  dsimp only
  cases working.steps sound (by omega) below with
  | stopped stopped => exact .inl stopped
  | rejected working advances => exact .inr ⟨r, working, Nat.le_add_right _ _, advances _ _⟩
  | entered result working₁ entered count =>
      rw [result, if_neg inner]
      rcases works _ _ working₁ (by omega) (placed.advance entered) with
        stopped | ⟨r₂, working₂, held₂, advances₂⟩
      · rw [WorkloadRun.unlessStopped_of_stopped stopped.1]
        exact .inl stopped
      · obtain ⟨r₃, working₃, held₃, advances₃⟩ := working₂.left (calm_call w _ _ _)
        rw [WorkloadRun.unlessStopped_of_going working₂.going]
        refine .inr ⟨r₃, working₃, by omega, ?_⟩
        have advances := (entered.trans advances₂).trans advances₃
        rwa [Nat.zero_add, Nat.add_zero, Nat.add_zero] at advances

/-- Children are called one after another, each when its elders are done. -/
theorem works_children {step : WorkloadRun → Nat → WorkloadRun}
    (heeds : ∀ child, Heeds (step · child))
    (each : ∀ child < w.fanout, Works w first context plans hints shipped calls leaves
      (w.Placed (child * leaves)) (step · child))
    {count : Nat} (inside : count ≤ w.fanout) :
    Works w first context plans hints shipped (count * calls) (count * leaves) (w.Placed 0)
      fun run => (List.range count).foldl step run := by
  induction count with
  | zero =>
      intro r run working _ _
      rw [Nat.zero_mul, Nat.zero_mul]
      exact .inr ⟨r, working, Nat.le_refl _, .refl run⟩
  | succ count ih =>
      have elders := ih (Nat.le_of_succ_le inside)
      have both := elders.andThen (each count inside) (heeds count) fun run run' placed advances => by
        have placed' := placed.advance advances
        rwa [Nat.zero_add] at placed'
      simp only [List.range_succ, List.foldl_append, List.foldl_cons, List.foldl_nil, Nat.succ_mul]
      exact both

theorem heeds_step (w : Workload) (context request level : Nat) (below : WorkloadRun → WorkloadRun)
    (child : Nat) : Heeds (w.step context request level below · child) :=
  fun _ stopped => WorkloadRun.unlessStopped_of_stopped stopped _

/-- All calls below one that is so many levels above the leaves. -/
theorem works_descend (sound : hints.flag HintName.aborted = false) {levels : Nat}
    (inside : levels + 1 ≤ w.depth) :
    Works w first context (plan :: plans) hints shipped (w.callsBelow (levels + 1))
      (w.fanout ^ (levels + 1)) (w.Placed 0) (w.descend context request (levels + 1)) := by
  induction levels generalizing plan plans with
  | zero =>
      have each : ∀ child < w.fanout, Works w first context (plan :: plans) hints shipped 1 1
          (w.Placed (child * 1))
          (w.step context request w.depth (w.descend context request 0) · child) := by
        intro child within r run working room placed
        refine works_leaf sound r run working room ?_
        intro none
        obtain ⟨groups, place⟩ := placed none
        rw [place, Nat.mul_one, Nat.mul_add_mod', Nat.mod_eq_of_lt within]
      have children := works_children (heeds_step w context request _ _) each (Nat.le_refl _)
      have calls : w.callsBelow 1 = w.fanout := Nat.mul_one w.fanout
      rw [Nat.mul_one] at children
      rw [Nat.zero_add, Nat.pow_one, calls]
      exact children
  | succ levels ih =>
      have inner : w.depth - (levels + 1) ≠ w.depth := by omega
      have each : ∀ child < w.fanout, Works w first context (plan :: plans) hints shipped
          (1 + w.callsBelow (levels + 1)) (w.fanout ^ (levels + 1))
          (w.Placed (child * w.fanout ^ (levels + 1)))
          (w.step context request (w.depth - (levels + 1))
            (w.descend context request (levels + 1)) · child) := by
        intro child _ r run working room placed
        refine Works.call sound inner (ih (Nat.le_of_succ_le inside)) r run working room ?_
        -- Every call above the leaves has whole groups of leaves below it.
        intro none
        obtain ⟨groups, place⟩ := placed none
        refine ⟨groups + child * w.fanout ^ levels, ?_⟩
        rw [place, Nat.pow_succ, Nat.add_mul, Nat.mul_assoc, Nat.add_zero]
      have children := works_children (heeds_step w context request _ _) each (Nat.le_refl _)
      rwa [← Nat.pow_succ'] at children

/-- All calls below a root. -/
theorem works_below_root (sound : hints.flag HintName.aborted = false) (deep : 1 ≤ w.depth) :
    Works w first context (plan :: plans) hints shipped (w.callsBelow w.depth)
      (w.fanout ^ w.depth) (w.Placed 0) (w.descend context request w.depth) := by
  have inside : w.depth - 1 + 1 = w.depth := Nat.sub_add_cancel deep
  have all : Works w first context (plan :: plans) hints shipped (w.callsBelow (w.depth - 1 + 1))
      (w.fanout ^ (w.depth - 1 + 1)) (w.Placed 0)
      (w.descend context request (w.depth - 1 + 1)) := works_descend sound (Nat.le_of_eq inside)
  rwa [inside] at all

end

end Workload
end SpanCapture
