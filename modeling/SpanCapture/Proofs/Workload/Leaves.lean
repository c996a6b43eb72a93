import SpanCapture.Proofs.Service.Tracing
import SpanCapture.Workload

/-! The leaves of a workload. A leaf is counted, fails when it is its turn, is left, and is taken
away again if it is a look-up that did not fail. Through all this the books balance: the frames
entered are those held somewhere and those taken away, and the failures are as many as the period
asks for. -/
namespace SpanCapture

namespace WorkloadRun

@[simp] theorem unlessStopped_of_going {run : WorkloadRun} (going : run.crash = none)
    (f : WorkloadRun → WorkloadRun) : run.unlessStopped f = f run := by
  rw [unlessStopped, going]
  rfl

theorem unlessStopped_of_stopped {run : WorkloadRun} (stopped : run.crash.isSome)
    (f : WorkloadRun → WorkloadRun) : run.unlessStopped f = run := if_pos stopped

end WorkloadRun

namespace Workload

/-- Whether it is the turn of a leaf to fail. The leaves are numbered from zero on. -/
def fails (w : Workload) (leaf : Nat) : Bool := 0 < w.failEvery && (leaf + 1) % w.failEvery == 0

/-- Whether a leaf is taken away again: it is at an odd place among its siblings, and does not
fail. -/
def vanishes (w : Workload) (leaf : Nat) : Bool := leaf % w.fanout % 2 == 1 && !w.fails leaf

/-- The books of a run that goes on, with so many frames held in traces. -/
structure Accounted (w : Workload) (held : Nat) (run : WorkloadRun) : Prop where
  going : run.crash = none
  frames : held + run.report.discarded = run.report.entered
  failures : run.report.failures = run.leaves / w.failEvery
  discarded : run.report.skipped = 0 →
    run.report.discarded = (List.range run.leaves).countP w.vanishes

/-- From one run on to another: the roots stay, and if nothing was skipped, so many calls were
entered and so many leaves run. -/
structure Advances (calls leaves : Nat) (run run' : WorkloadRun) : Prop where
  roots : run'.report.roots = run.report.roots
  skipped : run.report.skipped ≤ run'.report.skipped
  exact : run'.report.skipped = 0 →
    run'.report.entered = run.report.entered + calls ∧ run'.leaves = run.leaves + leaves

/-- A run at work below the root of a trace: what was shipped in earlier traces and what the context
holds now are the frames held. -/
structure Working (w : Workload) (first : Service) (context : Nat) (plans : List Plan)
    (hints : Hints) (shipped : Nat) (r : Recorder) (run : WorkloadRun) : Prop
    extends Accounted w (shipped + r.frameCount) run where
  tracing : Service.Tracing context plans hints r run.service
  still : first.Undelivered run.service

/-- The first half of a leaf: it is counted, and fails if it is its turn. -/
def attempt (w : Workload) (context : Nat) (run : WorkloadRun) : WorkloadRun :=
  let counted := { run with leaves := run.leaves + 1 }
  if w.fails run.leaves then
    { counted.onOperation context (·.fail "simulated failure") with
      report := { run.report with failures := run.report.failures + 1 } }
  else counted

/-- What follows on a leaf that was left: a look-up is discarded. -/
def tidy (context child frame : Nat) (run : WorkloadRun) : WorkloadRun :=
  if child % 2 = 1 then
    { run with
      service := (run.service.discard context frame).2
      report := if (run.service.discard context frame).1 then
          { run.report with discarded := run.report.discarded + 1 }
        else run.report }
  else run

section
variable {w : Workload} {first : Service} {context : Nat} {plan below : Plan} {plans : List Plan}
  {hints : Hints} {shipped held calls leaves child frame : Nat} {r : Recorder}
  {run run' run'' : WorkloadRun} {e : FrameEntry} {outer : List Frame}

theorem leaf_eq (w : Workload) (context child frame : Nat) (run : WorkloadRun) :
    w.leaf context child frame run =
      ((w.attempt context run).leave context).unlessStopped (tidy context child frame) := rfl

theorem Advances.refl (run : WorkloadRun) : Advances 0 0 run run :=
  ⟨rfl, Nat.le_refl _, fun _ => ⟨rfl, rfl⟩⟩

theorem Advances.of_same (report : run'.report = run.report) (leaves : run'.leaves = run.leaves) :
    Advances 0 0 run run' where
  roots := congrArg _ report
  skipped := Nat.le_of_eq (congrArg WorkloadReport.skipped report).symm
  exact _ := ⟨congrArg _ report, leaves⟩

theorem Advances.unskipped (advances : Advances calls leaves run run')
    (none : run'.report.skipped = 0) : run.report.skipped = 0 :=
  Nat.le_zero.mp (none ▸ advances.skipped)

theorem Advances.trans {calls' leaves' : Nat} (one : Advances calls leaves run run')
    (next : Advances calls' leaves' run' run'') :
    Advances (calls + calls') (leaves + leaves') run run'' := by
  refine ⟨next.roots.trans one.roots, Nat.le_trans one.skipped next.skipped, ?_⟩
  intro none
  obtain ⟨entered, run⟩ := one.exact (next.unskipped none)
  obtain ⟨entered', run'⟩ := next.exact none
  omega

/-- The failures after one more leaf. -/
theorem failures_succ (w : Workload) (leaf : Nat) :
    (leaf + 1) / w.failEvery = leaf / w.failEvery + (w.fails leaf).toNat := by
  rw [Nat.succ_div]
  congr 1
  by_cases turn : w.failEvery ∣ leaf + 1
  · have some : 0 < w.failEvery := Nat.pos_of_dvd_of_pos turn (Nat.succ_pos leaf)
    have fails : w.fails leaf = true := by
      simp [fails, some, Nat.mod_eq_zero_of_dvd turn]
    rw [if_pos turn, fails]
    rfl
  · have spared : w.fails leaf = false := by
      rw [Nat.dvd_iff_mod_eq_zero] at turn
      simp [fails, turn]
    rw [if_neg turn, spared]
    rfl

theorem countP_vanishes_succ (w : Workload) (leaf : Nat) :
    (List.range (leaf + 1)).countP w.vanishes =
      (List.range leaf).countP w.vanishes + (w.vanishes leaf).toNat := by
  rw [List.range_succ, List.countP_append, List.countP_singleton]
  cases w.vanishes leaf <;> rfl

theorem attempt_run (w : Workload) (context : Nat) (run : WorkloadRun) :
    (w.attempt context run).crash = run.crash ∧ (w.attempt context run).leaves = run.leaves + 1 ∧
      (w.attempt context run).report =
        { run.report with failures := run.report.failures + (w.fails run.leaves).toNat } := by
  unfold attempt
  dsimp only
  cases w.fails run.leaves <;> exact ⟨rfl, rfl, rfl⟩

/-- Attempting a leaf changes the operation of its frame at most. -/
theorem attempted (h : Service.Tracing context plans hints r run.service)
    (top : r.openFrames = .node e [] :: outer) (clean : e.op.hasException = false) :
    ∃ r' e', run.service.Undelivered (w.attempt context run).service ∧
      Service.Tracing context plans hints r' (w.attempt context run).service ∧
      r'.frameCount = r.frameCount ∧ r'.openFrames = .node e' [] :: outer ∧ e'.id = e.id ∧
      e'.op.pending = e.op.pending ∧ e'.op.hasException = w.fails run.leaves := by
  unfold attempt
  dsimp only
  cases turn : w.fails run.leaves with
  | false => exact ⟨r, e, .refl _, h, rfl, top, rfl, rfl, clean⟩
  | true =>
      let failed : Operation → Operation := (·.fail "simulated failure")
      have changed := h.changed (f := failed) fun _ => rfl
      have after : r.withOperation failed =
          { r with openFrames := .node { e with op := failed e.op } [] :: outer } := by
        simp only [Recorder.withOperation, top]
      refine ⟨r.withOperation failed, { e with op := failed e.op }, ?_, changed, ?_, ?_, rfl, rfl,
        Operation.hasException_fail _ e.op⟩
      · change run.service.Undelivered (run.service.withRecorder context () _).2
        rw [Service.withRecorder_known h.known]
        exact Service.undelivered_setRecorder _ _ _
      · rw [after]
      · rw [after]

/-- Tidying up after a leaf takes its frame away if it is a look-up that did not fail. -/
theorem tidied (h : Service.Tracing context plans hints r run.service) {left : FrameEntry}
    (closed : .node left [] ∈ Frame.closedParts r.openFrames) (child : Nat) :
    let gone := child % 2 == 1 && !left.op.hasException
    ∃ r' s', run.service.Undelivered s' ∧ Service.Tracing context plans hints r' s' ∧
      r'.frameCount + gone.toNat = r.frameCount ∧
      tidy context child left.id run =
        { run with
          service := s'
          report := { run.report with discarded := run.report.discarded + gone.toNat } } := by
  intro gone
  by_cases odd : child % 2 = 1
  · obtain ⟨r', s', answer, still, tracing, count⟩ := h.discarded closed
    have target : (Frame.node left []).containsException = left.op.hasException :=
      Bool.or_false _
    change run.service.discard context left.id = _ at answer
    rw [target] at answer count
    have taken : gone = !left.op.hasException := by simp [gone, odd]
    refine ⟨r', s', still, tracing, ?_, ?_⟩
    · rw [taken, ← count]
      cases left.op.hasException <;> rfl
    · rw [tidy, if_pos odd, answer, taken]
      cases left.op.hasException <;> rfl
  · have spared : gone = false := by simp [gone, odd]
    refine ⟨r, run.service, .refl _, h, ?_, ?_⟩
    · rw [spared]
      rfl
    · rw [spared]
      exact if_neg odd

/-- A leaf whose frame is on top is left behind with the books in order. -/
theorem Working.leaf (h : Working w first context (plan :: below :: plans) hints shipped r run)
    (top : r.openFrames = .node e [] :: outer) (number : e.id = frame)
    (own : e.op.plan = plan) (calm : plan.Calm) (clean : e.op.hasException = false)
    (lookUp : child % 2 = 1 → plan.pending = [])
    (place : run.report.skipped = 0 → run.leaves % w.fanout = child) :
    ∃ r', Working w first context (below :: plans) hints shipped r' (w.leaf context child frame run) ∧
      r'.frameCount ≤ r.frameCount ∧ Advances 0 1 run (w.leaf context child frame run) := by
  obtain ⟨going, leaves, report⟩ := attempt_run w context run
  obtain ⟨r₁, e₁, still₁, tracing₁, count₁, top₁, same, waiting, failed⟩ :=
    attempted (w := w) h.tracing top clean
  obtain ⟨info, r₂, s₂, exited, still₂, tracing₂, count₂, closed⟩ := tracing₁.left calm
  let tried := w.attempt context run
  have leave : tried.leave context = { tried with service := s₂ } := by
    rw [WorkloadRun.leave, exited]
    rfl
  have target := closed e₁ [] outer top₁
  have closing : Service.Tracing context (below :: plans) hints r₂
      ({ tried with service := s₂ } : WorkloadRun).service := tracing₂
  obtain ⟨r₃, s₃, still₃, tracing₃, count₃, tidied⟩ := tidied closing target child
  have left : w.leaf context child frame run =
      tidy context child (e₁.left tried.service.clock).id { tried with service := s₂ } := by
    have onward : ({ tried with service := s₂ } : WorkloadRun).crash = none := going.trans h.going
    have named : (e₁.left tried.service.clock).id = frame := same.trans number
    rw [leaf_eq, leave, WorkloadRun.unlessStopped_of_going onward, named]
  -- A look-up has no scripts, so what it recorded is what it is left with.
  have gone : (child % 2 == 1 && !(e₁.left tried.service.clock).op.hasException) =
      (child % 2 == 1 && !w.fails run.leaves) := by
    by_cases odd : child % 2 = 1
    · have settled : e₁.op.Settled :=
        waiting.trans ((congrArg Plan.pending own).trans (lookUp odd))
      rw [FrameEntry.left, Operation.finalize_settled settled]
      exact congrArg (fun failed => child % 2 == 1 && !failed) failed
    · rw [beq_eq_false_iff_ne.mpr odd, Bool.false_and, Bool.false_and]
  rw [gone] at count₃ tidied
  rw [left, tidied]
  refine ⟨r₃, ?_, by omega, ?_⟩
  · refine ⟨⟨going.trans h.going, ?_, ?_, ?_⟩, tracing₃,
      ((h.still.trans still₁).trans still₂).trans still₃⟩
    · have frames := h.frames
      rw [report]
      dsimp only
      omega
    · rw [report, leaves, failures_succ, ← h.failures]
    · rw [report, leaves]
      dsimp only
      intro none
      rw [countP_vanishes_succ, ← h.discarded none, vanishes, place none]
  · rw [report]
    exact ⟨rfl, Nat.le_refl _, fun _ => ⟨rfl, leaves⟩⟩

end

end Workload
end SpanCapture
