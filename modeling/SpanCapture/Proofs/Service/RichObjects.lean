import SpanCapture.Proofs.Operation.Rich
import SpanCapture.Proofs.Service.Timeline

/-! What dispatched traces keep alive. A frame is finalized when it is closed and not touched again
but for its endpoint mark, so every operation in a dispatched trace is as finalizing left it: no
script is pending, and its side table is empty if the operation was tidy. Traces closed by the
watchdog are not dispatched, but frames closed by a sweep that crashed may be later. -/
namespace SpanCapture
namespace Service

/-- The entries of the frames that a call may close, as they are before their scripts run: that on
top of a context, or whatever is open once the watchdog has marked the frames on top. -/
def closings (m : Moment Service Call (Outcome Answer)) : List FrameEntry :=
  match m.call with
  | .exit id => ((m.before.recorder? id).bind Recorder.top?).toList.map Frame.entry
  | .sweep _ _ => m.before.contexts.entries.flatMap fun context =>
      context.2.markOverdue.openFrames.map Frame.entry
  | _ => []

/-- A frame was closed in the course of a history while its operation was not tidy. -/
def ClosedUntidy (history : List (Moment Service Call (Outcome Answer))) (x : FrameEntry) : Prop :=
  ∃ m ∈ history, ∃ e ∈ closings m, ∃ clock,
    x.unmarked = (e.left clock).unmarked ∧ ¬e.op.Tidy

/-- An operation is rid of its scripts, and of its rich objects as well unless it was not tidy when
its frame was closed. -/
structure Released (history : List (Moment Service Call (Outcome Answer))) (x : FrameEntry) :
    Prop where
  settled : x.op.Settled
  bare : ¬ClosedUntidy history x → x.op.rich = []

/-- A statement about closed frames: it does not look at endpoint marks, and it is true of every
diagnostic frame. -/
structure OfClosed (Q : FrameEntry → Prop) : Prop where
  markless : FrameEntry.Markless Q
  diagnostic : ∀ callStack identity number parent start,
    Q (.opened number parent (Assembler.diagnosticOperation callStack identity) start)

def Establishes (Q : FrameEntry → Prop) (m : Moment Service Call (Outcome Answer)) : Prop :=
  ∀ e ∈ closings m, ∀ clock, (e.op.finalize clock).2.2.isDone → Q (e.left clock)

/-- A statement is true of all frames closed so far and still held in some context. -/
def ClosedAll (Q : FrameEntry → Prop) (s : Service) : Prop :=
  ∀ id r, s.recorder? id = some r → r.ClosedAll Q

section
variable {Q : FrameEntry → Prop} {s : Service} {id now : Nat} {r : Recorder} {call : Call}
  {history : List (Moment Service Call (Outcome Answer))}

theorem markless_released : FrameEntry.Markless (Released history) := by
  intro x y same released
  have pending : x.op.pending = y.op.pending := congrArg (·.op.pending) same
  have rich : x.op.rich = y.op.rich := congrArg (·.op.rich) same
  refine ⟨pending.symm.trans released.settled, fun tidily => rich.symm.trans (released.bare ?_)⟩
  rintro ⟨m, before, e, closing, clock, left, untidy⟩
  exact tidily ⟨m, before, e, closing, clock, same.symm.trans left, untidy⟩

theorem Released.mono {x : FrameEntry} (h : Released history x)
    (m : Moment Service Call (Outcome Answer)) : Released (history ++ [m]) x := by
  refine ⟨h.settled, fun tidily => h.bare ?_⟩
  rintro ⟨earlier, before, rest⟩
  exact tidily ⟨earlier, List.mem_append_left _ before, rest⟩

/-- Without untidy closings no rich object is left. -/
theorem Released.rich_eq_nil {x : FrameEntry} (h : Released history x)
    (tidy : ∀ m ∈ history, ∀ e ∈ closings m, e.op.Tidy) : x.op.rich = [] := by
  refine h.bare ?_
  rintro ⟨m, before, e, closing, -, -, untidy⟩
  exact untidy (tidy m before e closing)

/-- A frame is released by being closed. -/
theorem establishes_released (history : List (Moment Service Call (Outcome Answer)))
    (m : Moment Service Call (Outcome Answer)) : Establishes (Released (history ++ [m])) m := by
  intro e closing clock done
  refine ⟨Operation.settled_finalize done, fun tidily => ?_⟩
  have tidy : e.op.Tidy := Decidable.byContradiction fun untidy =>
    tidily ⟨m, List.mem_append_right _ List.mem_cons_self, e, closing, clock, rfl, untidy⟩
  exact tidy.rich_finalize clock

theorem ofClosed_released : OfClosed (Released history) := by
  refine ⟨markless_released, fun callStack identity number parent start => ?_⟩
  refine ⟨Assembler.settled_diagnosticOperation callStack identity, fun _ => ?_⟩
  change (Assembler.diagnosticOperation callStack identity).rich = []
  unfold Assembler.diagnosticOperation
  dsimp only
  split <;> rfl

theorem mem_closings_exit {frame : Frame} (known : s.recorder? id = some r)
    (top : r.top? = some frame) : frame.entry ∈ closings (.at step s (.exit id)) := by
  change frame.entry ∈ (Option.toList (Option.bind (s.recorder? id) Recorder.top?)).map Frame.entry
  rw [known, Option.bind_some, top]
  exact List.mem_singleton_self _

theorem mem_closings_sweep {held : List Nat} {frame : Frame} (known : s.recorder? id = some r)
    (member : frame ∈ r.markOverdue.openFrames) :
    frame.entry ∈ closings (.at step s (.sweep now held)) :=
  List.mem_flatMap.mpr ⟨(id, r), Slots.mem_of_find? known, List.mem_map_of_mem member⟩

theorem ClosedAll.mono {P : FrameEntry → Prop} (h : s.ClosedAll P) (weaker : ∀ x, P x → Q x) :
    s.ClosedAll Q := fun id r known x member => weaker x (h id r known x member)

theorem ClosedAll.visit (h : s.ClosedAll Q) (known : s.recorder? id = some r) (now : Nat)
    (every : ∀ frame ∈ r.markOverdue.openFrames, ∀ later,
      (frame.entry.op.finalize later).2.2.isDone → Q (frame.entry.left later)) :
    (s.visit now id r).2.ClosedAll Q := by
  intro other r' known'
  by_cases here : other = id
  · subst here
    rw [recorder?_visit_self known now] at known'
    cases known'
    exact (h other r known).unwind s.maxAge now every
  · rw [recorder?_visit_of_ne here] at known'
    exact h other r' known'

/-- What is true of all closed frames stays so if it is true of those a call closes. -/
theorem ClosedAll.step (kind : OfClosed Q) (timely : s.Timely) (h : s.ClosedAll Q)
    (closes : Establishes Q (.at Service.step s call)) : (Service.step s call).2.ClosedAll Q := by
  by_cases asleep : ∃ now held, call = .sweep now held
  · obtain ⟨now, held, rfl⟩ := asleep
    refine sweep_keeps (P := ClosedAll Q) ?_ timely.table held h
    intro later id r before known kept
    exact kept.visit known now fun frame member =>
      closes frame.entry (mem_closings_sweep before member)
  · have awake : ∀ now held, call ≠ .sweep now held := fun now held same => asleep ⟨now, held, same⟩
    intro id r' known'
    cases known : s.recorder? id with
    | none => exact .idle (recorder?_step_unknown timely.toSound known known').2.1
    | some r =>
        have old : call = .newContext → id ≠ s.nextContext := fun _ =>
          Nat.ne_of_lt (timely.numbered id (mem_keys known))
        by_cases here : call.target? = some id
        · rcases call.target?_cases here with rfl | ⟨asked, asks⟩
          · cases (recorder?_dropContext id s).symm.trans known'
          · obtain ⟨after, left, frames⟩ := openFrames_step_target known here asks
            rw [left] at known'
            cases known'
            have unique := (timely.recorders id r known).nodup
            refine Recorder.ClosedAll.of_same (Recorder.ClosedAll.step (s := ⟨s.clock, r⟩)
              kind.markless unique (h id r known) asked ?_ ?_) frames
            · rintro rfl frame top
              obtain rfl : call = .exit id := by
                cases call with
                | exit target => exact congrArg Call.exit (Option.some.inj here)
                | _ => cases asks
              exact closes frame.entry (mem_closings_exit known top) s.clock
            · rintro maxAge now rfl
              cases call <;> cases asks
        · rw [recorder?_step_of_ne timely.toSound here awake old] at known'
          exact h id r' known'

/-- What is true of all closed frames is true of the root that goes into a trace. -/
theorem ClosedAll.rootOf {info : FrameEntry} {completed : CompletedTrace} (kind : OfClosed Q)
    (h : s.ClosedAll Q) (closes : Establishes Q (.at Service.step s (.exit id)))
    (known : s.recorder? id = some r)
    (answered : (r.exit s.clock).2.2 = .done (some ⟨info, some completed⟩)) :
    ∀ x ∈ (s.assembler.rootOf completed).entries, Q x := by
  have plain : ∀ x ∈ Frame.entriesIn [completed.root], Q x := (h id r known).completed
    (fun frame top => closes frame.entry (mem_closings_exit known top) s.clock) answered
  rw [Frame.entries_eq]
  unfold Assembler.rootOf
  split
  · rw [Assembler.entriesIn_diagnose, List.forall_mem_append, List.forall_mem_singleton]
    exact ⟨plain, kind.diagnostic _ _ _ _ _⟩
  · exact plain

/-- What is true of all closed frames is true of those handed over. -/
theorem ClosedAll.dispatched {trace : Trace} (kind : OfClosed Q) (timely : s.Timely)
    (h : s.ClosedAll Q) (closes : Establishes Q (.at Service.step s call))
    (handed : dispatched? (.at Service.step s call) = some trace) :
    ∀ x ∈ trace.root.entries, Q x := by
  obtain ⟨id, r, info, completed, rfl, known, answered, -, root⟩ := timely.dispatched handed
  rw [root]
  exact h.rootOf kind closes known answered

/-- Whatever happens in a service from its building on, every operation in a trace handed to the
dispatcher is rid of its scripts. It holds no rich object either, unless its frame was closed while
it was not tidy: with rich objects and no script to take them, or with a script that leaves others.
The dispatcher gets the calls in the history and no others. -/
theorem dispatched_operations_released {setup : Setup} {first s : Service}
    {history : List (Moment Service Call (Outcome Answer))}
    (built : Service.build setup = .done (.ok first))
    (run : Run step (fun _ => True) first history s) :
    s.dispatcher = after Dispatcher.step first.dispatcher (dispatcherCalls history) ∧
      (∀ trace ∈ dispatched history, ∀ x ∈ trace.root.entries, Released history x) ∧
      ∀ trace ∈ s.dispatcher.buffer, ∀ x ∈ trace.root.entries, Released history x := by
  have kept : s.Timely ∧ s.ClosedAll (Released history) ∧
      ∀ trace ∈ dispatched history, ∀ x ∈ trace.root.entries, Released history x := by
    induction run with
    | start =>
        refine ⟨timely_build built, ?_, List.forall_mem_nil _⟩
        intro id r known
        rw [recorder?_build built] at known
        cases known
    | @next history s call before _ ih =>
        obtain ⟨timely, closed, released⟩ := ih
        -- What was released stays so in a longer history; what is closed now is released.
        have grown := closed.mono fun x released => released.mono (.at step s call)
        have closes := establishes_released history (.at step s call)
        refine ⟨timely.step call, grown.step ofClosed_released timely closes, ?_⟩
        refine forall_mem_dispatched_concat ?_ fun trace handed =>
          grown.dispatched ofClosed_released timely closes handed
        exact fun trace earlier x member => (released trace earlier x member).mono _
  obtain ⟨-, -, released⟩ := kept
  exact ⟨dispatcher_run built run, released,
    fun trace waiting => released trace (mem_dispatched_of_waiting built run waiting)⟩

/-- A root and a query with an object each, and scripts that read them. -/
def objectsRead : List Call :=
  [.newContext,
    .enter 1 {
      kind := "http", label := "GET /", rich := [("request", "raw bytes")]
      pending := [[.rich "request" "body"]] },
    .enter 1 { kind := "db", label := "query" }, .act 1 (.putRich "rows" "cursor"),
    .act 1 (.defer [.rich "rows" "read", .defer [.put "done" (.bool true)]]), .exit 1, .exit 1]

theorem read_objects_released :
    ∃ first, build Setup.plain = .done (.ok first) ∧
      let history := moments step first objectsRead
      let s := after step first objectsRead
      Run step (fun _ => True) first history s ∧
      (∀ m ∈ history, ∀ e ∈ closings m, e.op.Tidy) ∧
      ((dispatched history).map fun trace => trace.root.entries.length) = [3] ∧
      s.dispatcher = after Dispatcher.step first.dispatcher (dispatcherCalls history) ∧
      ∀ trace ∈ dispatched history, ∀ x ∈ trace.root.entries, x.op.Settled ∧ x.op.rich = [] := by
  have ran : ∃ first, build Setup.plain = .done (.ok first) ∧
      (∀ m ∈ moments step first objectsRead, ∀ e ∈ closings m, e.op.Tidy) ∧
      ((dispatched (moments step first objectsRead)).map fun trace =>
        trace.root.entries.length) = [3] :=
    ⟨_, rfl, by decide +kernel, by decide +kernel⟩
  obtain ⟨first, built, tidy, sizes⟩ := ran
  have run : Run step (fun _ => True) first (moments step first objectsRead)
      (after step first objectsRead) := .of_moments fun _ _ => trivial
  obtain ⟨calls, released, -⟩ := dispatched_operations_released built run
  refine ⟨first, built, run, tidy, sizes, calls, fun trace member x inside => ?_⟩
  have released := released trace member x inside
  exact ⟨released.settled, released.rich_eq_nil tidy⟩

/-- A root with an object and no script, and a query whose script puts one there. -/
def objectsLeft : List Call :=
  [.newContext,
    .enter 1 { kind := "http", label := "GET /", rich := [("request", "raw bytes")] },
    .enter 1 { kind := "db", label := "query", pending := [[.putRich "rows" "cursor"]] },
    .exit 1, .exit 1]

/-- Both objects go out with the trace; the diagnostic frame behind them has none. -/
theorem left_objects_dispatched :
    ∃ first, build Setup.plain = .done (.ok first) ∧
      ((after step first objectsLeft).dispatcher.buffer.map fun trace =>
        trace.root.entries.map fun x => x.op.rich) =
          [[[("request", "raw bytes")], [("rows", "cursor")], []]] :=
  ⟨_, rfl, by decide +kernel⟩

end
end Service
end SpanCapture
