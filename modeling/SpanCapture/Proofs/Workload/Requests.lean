import Mathlib.Algebra.Ring.Nat
import SpanCapture.Proofs.Delivery.Willing
import SpanCapture.Proofs.Service.RootTraces
import SpanCapture.Proofs.Workload.Descent

/-! The requests of a workload. Each is served in a context of its own: its probe is rejected, or its
root is entered, described, and left after all calls below it, and then its trace is dispatched. In
the end its context is as it was opened, unless an analyzer has crashed. -/
namespace SpanCapture

def WorkloadRun.countRoot (run : WorkloadRun) : WorkloadRun :=
  { run with report := { run.report with roots := run.report.roots + 1 } }

def WorkloadRun.opened (run : WorkloadRun) (s' : Service) : WorkloadRun :=
  ({ run.countRoot with service := s' } : WorkloadRun).countEntered

namespace Workload

/-- The frames of a request: its root, and a power of the fanout on every level below. -/
def framesPerRequest (w : Workload) : Nat := ((List.range (w.depth + 1)).map (w.fanout ^ ·)).sum

def rootVerdict (w : Workload) (run : WorkloadRun) : (Bool × Probe) × Service :=
  run.service.newContext.2.shouldCollect run.service.nextContext w.rootProbe

def admits (w : Workload) (run : WorkloadRun) : Bool := (w.rootVerdict run).1.1

def upTo (w : Workload) (s : Service) (count : Nat) : WorkloadRun :=
  (List.range count).foldl w.request { service := s }

def admitted (w : Workload) (s : Service) (count : Nat) : List Nat :=
  (List.range count).filter fun number => w.admits (w.upTo s number)

/-- A run between two requests, with so many frames in the traces delivered so far. -/
structure Between (w : Workload) (first : Service) (held : Nat) (run : WorkloadRun) : Prop
    extends Accounted w held run where
  sound : run.service.Sound
  alike : first.Alike run.service

/-- What is asked of a service for a workload: no diagnostic frames, the application not ignored, and
room for all frames of a request. -/
structure Serves (w : Workload) (s : Service) : Prop where
  plain : s.assembler.diagnoseUnknown = false
  welcome : s.Welcomes w.application
  room : w.framesPerRequest ≤ s.config.maxFrames

/-- All that a request can come to if it is not stopped: its probe is rejected, or its trace is
dispatched. -/
inductive Responds (w : Workload) (first : Service) (held number : Nat) (run run' : WorkloadRun) :
    Prop
  | rejected : w.admits run = false → run'.service.dispatcher = run.service.dispatcher →
      Between w first held run' → Advances w.framesPerRequest (w.fanout ^ w.depth) run run' →
      Responds w first held number run run'
  | delivered (trace : Trace) : w.admits run = true →
      run'.service.dispatcher = (run.service.dispatcher.dispatch trace).2 →
      trace.root.entry.op.label = (rootOperation number).label →
      Between w first (held + trace.size) run' →
      Advances w.framesPerRequest (w.fanout ^ w.depth) run.countRoot run' →
      Responds w first held number run run'

section
variable {w : Workload} {s s' first : Service} {context held number count : Nat} {plan : Plan}
  {hints : Hints} {r : Recorder} {run : WorkloadRun}

theorem callsBelow_succ (w : Workload) (levels : Nat) :
    w.callsBelow (levels + 1) = w.callsBelow levels + w.fanout ^ (levels + 1) := by
  induction levels with
  | zero => simp [callsBelow]
  | succ levels ih =>
      have unfolded : w.callsBelow (levels + 1 + 1) = w.fanout * (1 + w.callsBelow (levels + 1)) := rfl
      have lower : w.callsBelow (levels + 1) = w.fanout * (1 + w.callsBelow levels) := rfl
      rw [unfolded, ih, ← Nat.add_assoc, Nat.mul_add, ← lower, ← Nat.pow_succ', ih]

theorem framesPerRequest_eq (w : Workload) : w.framesPerRequest = 1 + w.callsBelow w.depth := by
  rw [framesPerRequest]
  induction w.depth with
  | zero => rfl
  | succ levels ih =>
      rw [List.range_succ, List.map_append, List.sum_append, ih, callsBelow_succ]
      simp [Nat.add_assoc]

theorem upTo_succ (w : Workload) (s : Service) (count : Nat) :
    w.upTo s (count + 1) = w.request (w.upTo s count) count := by
  rw [upTo, List.range_succ, List.foldl_append]
  rfl

theorem respond_rejected (rejected : w.admits run = false) (number : Nat) :
    w.respond run number = ({ run with service := (w.rootVerdict run).2 } : WorkloadRun).skip := by
  change (run.service.newContext.2.shouldCollect run.service.newContext.1 w.rootProbe).1.1 = false
    at rejected
  rw [respond]
  dsimp only
  rw [rejected]
  rfl

theorem respond_admitted {frame : Nat} (admitted : w.admits run = true)
    (entered : (w.rootVerdict run).2.enter run.service.nextContext (rootOperation number) =
      (.done frame, s')) :
    w.respond run number =
      (w.descend run.service.nextContext number w.depth
        (w.describeRoot run.service.nextContext
          (run.opened s'))).unlessStopped (·.leave run.service.nextContext) := by
  change (run.service.newContext.2.shouldCollect run.service.newContext.1 w.rootProbe).1.1 = true
    at admitted
  change (run.service.newContext.2.shouldCollect run.service.newContext.1 w.rootProbe).2.enter
    run.service.newContext.1 (rootOperation number) = _ at entered
  rw [respond]
  dsimp only
  rw [admitted, Bool.not_true, if_neg Bool.false_ne_true, entered]
  rfl

theorem respond_crashed {message : String} (admitted : w.admits run = true)
    (crashed : (w.rootVerdict run).2.enter run.service.nextContext (rootOperation number) =
      (.crashed message, s')) :
    w.respond run number = { run with service := s', crash := some message } := by
  change (run.service.newContext.2.shouldCollect run.service.newContext.1 w.rootProbe).1.1 = true
    at admitted
  change (run.service.newContext.2.shouldCollect run.service.newContext.1 w.rootProbe).2.enter
    run.service.newContext.1 (rootOperation number) = _ at crashed
  rw [respond]
  dsimp only
  rw [admitted, Bool.not_true, if_neg Bool.false_ne_true, crashed]

/-- Describing a root gives the name of the application as a hint, and changes its properties. -/
theorem described (h : Service.Tracing context [plan] hints r run.service)
    (fair : hints.Deliverable none) :
    ∃ r' hints', Service.Tracing context [plan] hints' r' (w.describeRoot context run).service ∧
      run.service.Undelivered (w.describeRoot context run).service ∧
      r'.frameCount = r.frameCount ∧ hints'.Deliverable w.application ∧
      (w.describeRoot context run).crash = run.crash ∧
      (w.describeRoot context run).report = run.report ∧
      (w.describeRoot context run).leaves = run.leaves := by
  let details : Operation → Operation := fun op =>
    (op.put "http.method" (.text "GET")).put "http.status" (.ofUnsigned 200)
  have still {s : Service} {r : Recorder} {hints : Hints}
      (h : Service.Tracing context [plan] hints r s) :
      s.Undelivered (s.withRecorder context () fun r => ((), r.withOperation details)).2 := by
    rw [Service.withRecorder_known h.known]
    exact Service.undelivered_setRecorder _ _ _
  have count (r : Recorder) : (r.withOperation details).frameCount = r.frameCount := by
    have changed := Recorder.changes details r
    generalize r.withOperation details = r' at changed
    cases changed <;> rfl
  unfold describeRoot
  cases w.application with
  | none =>
      exact ⟨_, _, h.changed (f := details) fun _ => rfl, still h, count r, fair, rfl, rfl, rfl⟩
  | some name =>
      have named := h.hinted HintName.application (.text name)
      exact ⟨_, _, named.changed (f := details) fun _ => rfl,
        (Service.undelivered_setHint _ _ _ _).trans (still named), count _, fair.named name, rfl,
        rfl, rfl⟩

theorem undelivered_rootVerdict (w : Workload) (run : WorkloadRun) :
    run.service.newContext.2.Undelivered (w.rootVerdict run).2 := Service.undelivered_probe _ _ _

/-- The context of a request is idle while its root is probed for. -/
theorem Between.probed (h : Between w first held run) :
    Service.Tracing run.service.nextContext [] [] (first.blank run.service.nextContext)
      (w.rootVerdict run).2 := by
  rw [← h.alike.blank]
  exact h.sound.tracing.probed w.rootProbe

theorem Between.alike_probed (h : Between w first held run) :
    first.Alike (w.rootVerdict run).2 :=
  (h.alike.trans (Service.alike_newContext run.service)).trans
    (undelivered_rootVerdict w run).toAlike

/-- A root that is entered is described, and its trace is in progress. -/
theorem Between.opens (h : Between w first held run) (room : 0 < first.config.maxFrames)
    (answered : ((w.rootVerdict run).2.enter run.service.nextContext
      (rootOperation number)).1.isDone) :
    ∃ frame s' hints r,
      (w.rootVerdict run).2.enter run.service.nextContext (rootOperation number) =
        (.done frame, s') ∧
      Advances 1 0 run.countRoot
        (w.describeRoot run.service.nextContext (run.opened s')) ∧
      hints.Deliverable w.application ∧ r.frameCount = 1 ∧
      Working w run.service.newContext.2 run.service.nextContext [(rootOperation number).plan] hints
        held r (w.describeRoot run.service.nextContext (run.opened s')) := by
  obtain ⟨frame, r, s', hints, entered, still, tracing, one, fair⟩ :=
    h.probed.begun (show Hints.Deliverable none [] from ⟨rfl, rfl, rfl, rfl⟩)
      (h.alike_probed.config ▸ room) answered
  have begun : Service.Tracing run.service.nextContext [(rootOperation number).plan] hints r
      (run.opened s').service := tracing
  obtain ⟨r', hints', tracing', still', count, fair', crash, report, leaves⟩ :=
    described (w := w) begun fair
  have opening := (advances_entered s' run.countRoot).trans (.of_same report leaves)
  refine ⟨frame, s', hints', r', entered, opening, fair', count.trans one,
    ⟨crash.trans h.going, ?_, ?_, ?_⟩, tracing',
    ((undelivered_rootVerdict w run).trans still).trans still'⟩
  · have frames := h.frames
    rw [report, count, one]
    change held + 1 + run.report.discarded = run.report.entered + 1
    omega
  · rw [report, leaves]
    exact h.failures
  · rw [report, leaves]
    exact h.discarded

/-- The root is left at last, and its trace is dispatched. -/
theorem Working.finished (h : Working w first context [plan] hints held r run)
    (settled : plan.pending = []) (fair : hints.Deliverable w.application)
    (welcome : first.Welcomes w.application) (plain : first.assembler.diagnoseUnknown = false) :
    ∃ s' trace, run.leave context = { run with service := s' } ∧ s'.Sound ∧ first.Alike s' ∧
      s'.dispatcher = (first.dispatcher.dispatch trace).2 ∧
      s'.recorder? context = some (first.blank context) ∧ trace.size = r.frameCount ∧
      trace.root.entry.op.label = plan.label := by
  obtain ⟨info, s', trace, exited, sound, alike, -, dispatched, idle, size, label⟩ :=
    h.tracing.finished settled fair (h.still.welcomes welcome)
      (h.still.assembler ▸ plain)
  refine ⟨s', trace, ?_, sound, h.still.toAlike.trans alike, ?_, ?_, size, label⟩
  · rw [WorkloadRun.leave, exited]
    rfl
  · rw [dispatched, h.still.dispatcher]
  · rw [idle, h.still.toAlike.blank]

/-- A request whose root was entered. -/
theorem Between.responds_entered (h : Between w first held run) (serves : w.Serves first)
    (deep : 1 ≤ w.depth) (placed : w.Placed 0 run) (verdict : w.admits run = true)
    (answered : ((w.rootVerdict run).2.enter run.service.nextContext
      (rootOperation number)).1.isDone) :
    Stopped first (w.respond run number) ∨ Responds w first held number run (w.respond run number) ∧
      (w.respond run number).service.recorder? run.service.nextContext =
        some (first.blank run.service.nextContext) := by
  have alike := h.alike.trans (Service.alike_newContext run.service)
  have room := serves.room
  rw [framesPerRequest_eq] at room
  obtain ⟨frame, s₁, hints, r₁, entered, opening, fair, one, opened⟩ :=
    h.opens (by omega) answered
  have start : w.Placed 0 run.countRoot := placed
  -- The context holds the root alone, so there is room for all calls below it.
  rw [respond_admitted verdict entered]
  rcases works_below_root fair.aborted deep r₁ _ opened (by rw [alike.config, one]; exact room)
    (start.advance opening) with stopped | ⟨r₂, working, -, advances⟩
  · rw [WorkloadRun.unlessStopped_of_stopped stopped.1]
    exact .inl ⟨stopped.1, alike.analyzers ▸ stopped.2⟩
  · obtain ⟨s₂, trace, left, sound, alike', dispatched, idle, size, label⟩ :=
      working.finished rfl fair (alike.welcomes serves.welcome) (alike.assembler ▸ serves.plain)
    rw [WorkloadRun.unlessStopped_of_going working.going, left]
    refine .inr ⟨.delivered trace verdict dispatched label ?_ ?_, idle.trans ?_⟩
    · exact ⟨⟨working.going, size ▸ working.frames, working.failures, working.discarded⟩, sound,
        alike.trans alike'⟩
    · have advances := opening.trans advances
      rw [Nat.zero_add, ← framesPerRequest_eq] at advances
      exact ⟨advances.roots, advances.skipped, advances.exact⟩
    · rw [alike.blank]

/-- A request is served in a context that is left as it was opened, or an analyzer crashes. -/
theorem Between.responds (h : Between w first held run) (serves : w.Serves first)
    (deep : 1 ≤ w.depth) (placed : w.Placed 0 run) (number : Nat) :
    Stopped first (w.respond run number) ∨ Responds w first held number run (w.respond run number) ∧
      (w.respond run number).service.recorder? run.service.nextContext =
        some (first.blank run.service.nextContext) := by
  cases verdict : w.admits run with
  | false =>
      rw [respond_rejected verdict]
      refine .inr ⟨.rejected verdict (undelivered_rootVerdict w run).dispatcher ?_
        (advances_skip _ _ _ run), h.probed.known⟩
      exact ⟨⟨h.going, h.frames, h.failures, fun none => absurd none (Nat.succ_ne_zero _)⟩,
        h.probed.toSound, h.alike_probed⟩
  | true =>
      rcases h.probed.answers rfl (rootOperation number) with answered | ⟨message, s', crashed, loud⟩
      · exact h.responds_entered serves deep placed verdict answered
      · rw [respond_crashed verdict crashed]
        exact .inl ⟨rfl, h.alike_probed.analyzers ▸ loud⟩

end

end Workload
end SpanCapture
