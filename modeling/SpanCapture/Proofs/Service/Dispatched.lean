import SpanCapture.Proofs.Service.Sweeps

/-! What a service asks of its dispatcher. Traces are handed over by the exit of a root and by
nothing else, receivers come and go as the owner says, and every other call leaves the dispatcher
alone. So all calls it ever gets can be read off the history of the service. -/
namespace SpanCapture
namespace Service

/-- The trace that finishing a completed root hands over, unless it is dropped. -/
def finished? (completed : CompletedTrace) (s : Service) : Option Trace :=
  match (s.assembler.assemble s.ignoredApplications (s.freshIds s.drawn) s.clock completed).2 with
  | .done (.trace trace) => some trace
  | _ => none

/-- The trace that a call hands over: an exit, that of the root it closes. -/
def dispatched? (m : Moment Service Call (Outcome Answer)) : Option Trace :=
  match m.call with
  | .exit id =>
    (m.before.recorder? id).bind fun r =>
      (Recorder.Answer.completed? (Recorder.step ⟨m.before.clock, r⟩ .exit).1).bind fun completed =>
        (m.before.record id r .exit).finished? completed
  | _ => none

def dispatcherCall? (m : Moment Service Call (Outcome Answer)) : Option Dispatcher.Call :=
  match m.call with
  | .register receiver => some (.register receiver)
  | .unregister handle => some (.unregister handle)
  | .clear handle => some (.clear handle)
  | _ => (dispatched? m).map .dispatch

/-- The traces handed over in the course of a history, oldest first. -/
def dispatched (history : List (Moment Service Call (Outcome Answer))) : List Trace :=
  history.filterMap dispatched?

def dispatcherCalls (history : List (Moment Service Call (Outcome Answer))) :
    List Dispatcher.Call := history.filterMap dispatcherCall?

section
variable {s : Service} {id : Nat} {r : Recorder} {call : Call} {trace : Trace}
  {m : Moment Service Call (Outcome Answer)} {history : List (Moment Service Call (Outcome Answer))}

theorem dispatcher_finish (completed : CompletedTrace) (s : Service) :
    (s.finish completed).2.dispatcher =
      after Dispatcher.step s.dispatcher ((s.finished? completed).map .dispatch).toList := by
  unfold finish finished?
  dsimp only
  generalize s.assembler.assemble s.ignoredApplications (s.freshIds s.drawn) s.clock completed =
    result
  obtain ⟨clock, outcome⟩ := result
  rcases outcome with assembled | message
  · cases assembled <;> rfl
  · rfl

theorem dispatched?_exit (known : s.recorder? id = some r) :
    dispatched? (.at step s (.exit id)) =
      (Recorder.Answer.completed? ((r.exit s.clock).2.2.map .exited)).bind fun completed =>
        (s.record id r .exit).finished? completed := by
  change (s.recorder? id).bind _ = _
  rw [known]
  rfl

theorem dispatcher_exit (id : Nat) (s : Service) :
    (s.exit id).2.dispatcher = after Dispatcher.step s.dispatcher
      ((dispatched? (.at step s (.exit id))).map .dispatch).toList := by
  cases known : s.recorder? id with
  | none =>
      have nothing : dispatched? (.at step s (.exit id)) = none := by
        change (s.recorder? id).bind _ = _
        rw [known]
        rfl
      rw [exit_unknown known, nothing]
      rfl
  | some r =>
      rw [dispatched?_exit known]
      have left := exits known
      generalize s.exit id = result at left
      cases left with
      | crashed answered =>
          rw [answered]
          rfl
      | idle answered =>
          rw [answered]
          rfl
      | inner answered =>
          rw [answered]
          rfl
      | @root info completed answered =>
          rw [answered]
          exact dispatcher_finish completed (s.record id r .exit)

/-- The watchdog hands nothing over. -/
theorem dispatcher_sweep (sound : s.contexts.Sound) (now : Nat) (held : List Nat) :
    (s.sweep now held).2.dispatcher = s.dispatcher := by
  refine sweep_keeps (P := fun later => later.dispatcher = s.dispatcher) ?_ sound held rfl
  intro later id r _ _ same
  have visited := visits now id r later
  generalize later.visit now id r = result at visited
  cases visited with
  | crashed => exact same
  | spared => exact same
  | unwound answered =>
      rw [finish_overdue (Recorder.overdue_unwound answered)]
      exact same

theorem dispatcher_withRecorder {β : Type} (id : Nat) (default : β) (f : Recorder → β × Recorder)
    (s : Service) : (s.withRecorder id default f).2.dispatcher = s.dispatcher := by
  unfold withRecorder
  split <;> rfl

theorem dispatcher_enter (id : Nat) (op : Operation) (s : Service) :
    (s.enter id op).2.dispatcher = s.dispatcher := by
  cases known : s.recorder? id with
  | none => rw [enter_unknown known]
  | some r =>
      have entered := enters known op
      generalize s.enter id op = result at entered
      cases entered <;> rfl

theorem dispatcher_act (id : Nat) (action : Action) (s : Service) :
    (s.act id action).2.dispatcher = s.dispatcher := by
  unfold act
  split <;> rfl

/-- One call on a service is at most one on its dispatcher. -/
theorem dispatcher_step (sound : s.contexts.Sound) (call : Call) :
    (step s call).2.dispatcher =
      after Dispatcher.step s.dispatcher (dispatcherCall? (.at step s call)).toList := by
  cases call with
  | exit id => exact dispatcher_exit id s
  | enter id op => exact dispatcher_enter id op s
  | act id action => exact dispatcher_act id action s
  | sweep now held => exact dispatcher_sweep sound now held
  | discard id frame => exact dispatcher_withRecorder id false _ s
  | dump id => exact dispatcher_withRecorder id false Recorder.dump s
  | setHint id key value => exact dispatcher_withRecorder id () _ s
  | setHintObject id key object => exact dispatcher_withRecorder id () _ s
  | setHintAtRoot id key value => exact dispatcher_withRecorder id false _ s
  | change id f => exact dispatcher_withRecorder id () _ s
  | _ => rfl

theorem dispatcherCalls_concat :
    dispatcherCalls (history ++ [m]) = dispatcherCalls history ++ (dispatcherCall? m).toList := by
  rw [dispatcherCalls, List.filterMap_append, ← dispatcherCalls]
  cases given : dispatcherCall? m with
  | none =>
      rw [List.filterMap_cons_none given]
      rfl
  | some asked =>
      rw [List.filterMap_cons_some given]
      rfl

/-- After a run the dispatcher is as the calls that were made on it leave it. -/
theorem dispatcher_run {setup : Setup} {first : Service}
    (built : Service.build setup = .done (.ok first))
    (run : Run step (fun _ => True) first history s) :
    s.dispatcher = after Dispatcher.step first.dispatcher (dispatcherCalls history) := by
  have kept : s.Sound ∧
      s.dispatcher = after Dispatcher.step first.dispatcher (dispatcherCalls history) := by
    induction run with
    | start => exact ⟨sound_build built, rfl⟩
    | @next history s call _ _ ih =>
        obtain ⟨sound, same⟩ := ih
        refine ⟨sound.step call, ?_⟩
        rw [dispatcher_step sound.table, dispatcherCalls_concat, after_append, ← same]
  exact kept.2

theorem dispatched?_of_dispatch (asked : dispatcherCall? m = some (.dispatch trace)) :
    dispatched? m = some trace := by
  unfold dispatcherCall? at asked
  split at asked
  · cases asked
  · cases asked
  · cases asked
  · obtain ⟨trace', handed, same⟩ := Option.map_eq_some_iff.mp asked
    cases same
    exact handed

/-- What waits in the dispatcher was handed over. -/
theorem mem_dispatched_of_waiting {setup : Setup} {first : Service}
    (built : Service.build setup = .done (.ok first))
    (run : Run step (fun _ => True) first history s) (waiting : trace ∈ s.dispatcher.buffer) :
    trace ∈ dispatched history := by
  rw [dispatcher_run built run] at waiting
  refine Dispatcher.forall_mem_buffer_after (P := (· ∈ dispatched history)) ?_ ?_ trace waiting
  · rw [(build_cases built).2]
    exact List.forall_mem_nil _
  · intro trace asked
    obtain ⟨m, member, same⟩ := List.mem_filterMap.mp asked
    exact List.mem_filterMap.mpr ⟨m, member, dispatched?_of_dispatch same⟩

/-- What is true of all traces handed over stays true as long as it is of the next. -/
theorem forall_mem_dispatched_concat {P : Trace → Prop}
    (before : ∀ trace ∈ dispatched history, P trace)
    (next : ∀ trace, dispatched? m = some trace → P trace) :
    ∀ trace ∈ dispatched (history ++ [m]), P trace := by
  intro trace member
  rw [dispatched, List.filterMap_append, List.mem_append] at member
  rcases member with earlier | last
  · exact before trace earlier
  · obtain ⟨_, ⟨⟩ | ⟨_, ⟨⟩⟩, handed⟩ := List.mem_filterMap.mp last
    exact next trace handed

end

end Service
end SpanCapture
