import SpanCapture.Proofs.Recorder.Timeline
import SpanCapture.Proofs.Service.Dispatched
import SpanCapture.Proofs.Trace.Assembly

/-! A service stays timely: all its recorders fit the one clock, and what it hands to the
dispatcher is proper. Crashes of analyzers and scripts, sweeps and diagnostic frames make no
exception. -/
namespace SpanCapture
namespace Service

def traceOf (completed : CompletedTrace) (s : Service) : Trace :=
  s.assembler.traceOf (s.freshIds s.drawn) (s.assembler.applicationOf completed) completed
    (s.assembler.rootOf completed)

/-- Why a completed root would be dropped now, if it would. -/
def dumpReason? (completed : CompletedTrace) (s : Service) : Option DumpReason :=
  Assembler.dumpReason? s.ignoredApplications (s.assembler.applicationOf completed) completed.hints
    (s.assembler.rootOf completed)

/-- A finished root is dropped and nothing else happens, or its trace is dispatched. -/
theorem finish_finished {completed : CompletedTrace} (h : completed.root.Finished) (s : Service) :
    s.finish completed = (.done (), match s.dumpReason? completed with
      | some _ => s
      | none => { s with drawn := s.drawn + 1 }.withDispatcher
          (s.dispatcher.dispatch (s.traceOf completed)).2) := by
  have assembled := s.assembler.assemble_finished s.ignoredApplications (s.freshIds s.drawn) s.clock h
  cases reason : s.dumpReason? completed with
  | some reason' =>
      rw [dumpReason?] at reason
      rw [reason] at assembled
      simp only [finish, assembled]
  | none =>
      rw [dumpReason?] at reason
      rw [reason] at assembled
      simp only [finish, assembled, traceOf]

structure Timely (s : Service) : Prop extends Sound s where
  recorders : ∀ id r, s.recorder? id = some r → r.Timely s.clock.now

theorem Timely.recorded {s : Service} {id : Nat} {r : Recorder} (h : s.Timely)
    (known : s.recorder? id = some r) (call : Recorder.Call) : (s.record id r call).Timely := by
  have kept := (h.recorders id r known).step (s := ⟨s.clock, r⟩) call
  refine ⟨h.toSound.event (.recorded known call), ?_⟩
  intro other r' known'
  change r'.Timely (Recorder.step ⟨s.clock, r⟩ call).2.clock.now
  by_cases same : other = id
  · subst same
    rw [recorder?_record known] at known'
    cases known'
    exact kept.2
  · rw [recorder?_record_of_ne same] at known'
    exact (h.recorders other r' known').mono kept.1

theorem Timely.finish {s : Service} (h : s.Timely) {completed : CompletedTrace}
    (finished : completed.root.Finished) : (s.finish completed).2.Timely := by
  rw [finish_finished finished]
  dsimp only
  split
  · exact h
  · exact ⟨⟨h.table, h.numbered⟩, h.recorders⟩

theorem Timely.event {s s' : Service} (h : s.Timely) (event : Event s s') : s'.Timely := by
  have sound := h.toSound.event event
  cases event with
  | opened =>
      refine ⟨sound, ?_⟩
      intro id r known
      rw [recorder?_newContext h.toSound] at known
      split at known
      · cases known
        exact .idle rfl
      · exact h.recorders id r known
  | dropped id =>
      exact ⟨sound, fun other r known =>
        h.recorders other r (recorder?_of_dropContext h.table.unique known)⟩
  | recorded known call => exact h.recorded known call
  | completed known call done =>
      exact (h.recorded known call).finish
        ((h.recorders _ _ known).finished_step (s := ⟨s.clock, _⟩) done)
  | passed nanos =>
      exact ⟨sound, fun id r known => (h.recorders id r known).mono (Nat.le_add_right _ _)⟩
  | registered receiver => exact ⟨sound, h.recorders⟩
  | unregistered handle => exact ⟨sound, h.recorders⟩
  | emptied handle => exact ⟨sound, h.recorders⟩
  | board board => exact ⟨sound, h.recorders⟩

theorem Timely.step {s : Service} (h : s.Timely) (call : Call) : (Service.step s call).2.Timely := by
  have events := events_step h.table call
  generalize (Service.step s call).2 = s' at events
  induction events with
  | refl => exact h
  | tail _ event ih => exact ih.event event

theorem root_of_finished {s : Service} {completed : CompletedTrace} {trace : Trace}
    (finished : completed.root.Finished) (handed : s.finished? completed = some trace) :
    trace.root = s.assembler.rootOf completed := by
  unfold finished? at handed
  rw [s.assembler.assemble_finished _ _ _ finished] at handed
  dsimp only at handed
  generalize Assembler.dumpReason? _ _ _ _ = reason at handed
  cases reason with
  | some reason => cases handed
  | none =>
      cases handed
      rfl

/-- What is handed over is the trace of a finished root, just completed by an exit. -/
theorem Timely.dispatched {s : Service} {call : Call} {trace : Trace} (h : s.Timely)
    (handed : dispatched? (.at Service.step s call) = some trace) :
    ∃ id r info completed, call = .exit id ∧ s.recorder? id = some r ∧
      (r.exit s.clock).2.2 = .done (some ⟨info, some completed⟩) ∧ completed.root.Finished ∧
      trace.root = s.assembler.rootOf completed := by
  cases call with
  | exit id =>
      obtain ⟨r, known, completes⟩ := Option.bind_eq_some_iff.mp handed
      obtain ⟨completed, done, given⟩ := Option.bind_eq_some_iff.mp completes
      have finished := (h.recorders id r known).finished_step (s := ⟨s.clock, r⟩) done
      rcases Recorder.completed_cases done with ⟨-, info, answered⟩ | ⟨_, _, ⟨⟩, -⟩
      have root := root_of_finished finished given
      exact ⟨id, r, info, completed, rfl, known, answered, finished, root⟩
  | _ => cases handed

theorem timely_build {setup : Setup} {s : Service} (built : Service.build setup = .done (.ok s)) :
    s.Timely := by
  refine ⟨sound_build built, ?_⟩
  intro id r known
  rw [recorder?_build built] at known
  cases known

/-- Whatever happens in a service from its building on, crashes included: the dispatcher gets the
calls in the history and no others, all traces handed over are proper trees, and so are those that
are waiting. -/
theorem dispatched_traces_proper {setup : Setup} {first s : Service}
    {history : List (Moment Service Call (Outcome Answer))}
    (built : Service.build setup = .done (.ok first))
    (run : Run step (fun _ => True) first history s) :
    s.dispatcher = after Dispatcher.step first.dispatcher (dispatcherCalls history) ∧
      (∀ trace ∈ dispatched history, trace.root.Proper) ∧
      ∀ trace ∈ s.dispatcher.buffer, trace.root.Proper := by
  have kept : s.Timely ∧ ∀ trace ∈ dispatched history, trace.root.Proper := by
    induction run with
    | start => exact ⟨timely_build built, List.forall_mem_nil _⟩
    | next call _ _ ih =>
        obtain ⟨timely, proper⟩ := ih
        refine ⟨timely.step call, forall_mem_dispatched_concat proper ?_⟩
        intro trace handed
        obtain ⟨_, _, _, _, -, -, -, finished, root⟩ := timely.dispatched handed
        rw [root]
        exact (Assembler.finished_rootOf _ finished).proper
  exact ⟨dispatcher_run built run, kept.2,
    fun trace waiting => kept.2 trace (mem_dispatched_of_waiting built run waiting)⟩

/-- Two contexts, in one of which a script crashes while its frame is closed. -/
def crashing : List Call :=
  [.newContext, .newContext, .enter 1 { kind := "http", label := "first" }, .wait 5,
    .enter 1 { kind := "db", label := "lost" }, .act 1 (.defer [.advance 3, .crash "broken"]),
    .enter 2 { kind := "http", label := "second" }, .exit 1, .wait 2,
    .enter 1 { kind := "db", label := "kept" }, .exit 1, .wait 1, .exit 1]

theorem crashing_dispatches_proper_trace :
    ∃ first, build Setup.plain = .done (.ok first) ∧
      let history := moments step first crashing
      let s := after step first crashing
      Run step (fun _ => True) first history s ∧
      (dispatched history).length = 1 ∧ s.dispatcher.buffer.length = 1 ∧
      s.dispatcher = after Dispatcher.step first.dispatcher (dispatcherCalls history) ∧
      (∀ trace ∈ dispatched history, trace.root.Proper) ∧
      ∀ trace ∈ s.dispatcher.buffer, trace.root.Proper :=
  ⟨_, rfl, Run.of_moments fun _ _ => trivial, by decide +kernel, by decide +kernel,
    @dispatched_traces_proper Setup.plain _ _ _ rfl (Run.of_moments fun _ _ => trivial)⟩

end Service
end SpanCapture
