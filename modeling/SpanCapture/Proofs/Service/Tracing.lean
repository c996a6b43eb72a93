import SpanCapture.Proofs.Collection.Members
import SpanCapture.Proofs.Recorder.Plans
import SpanCapture.Proofs.Service.Boards
import SpanCapture.Proofs.Service.Timeline

/-! A trace in progress in one context of a service, with the plans of its open frames. Every call a
well-behaved owner makes below the root keeps it in progress: probes, opening and leaving frames as
long as there is room, changing the current operation, discarding closed frames. None of these
touches what the service was set up with, the applications it ignores, or the dispatcher. -/
namespace SpanCapture

namespace Switchboard

/-- The applications to ignore change by a push only, not as the strategy goes on. -/
theorem Continues.ignoredBy {board board' : Switchboard} (h : board.Continues board') (number : Nat) :
    board'.ignoredBy number = board.ignoredBy number := by
  cases known : board.strategies[number]? with
  | none =>
      have known' : board'.strategies[number]? = none := by
        rwa [List.getElem?_eq_none_iff, h.count, ← List.getElem?_eq_none_iff]
      simp only [Switchboard.ignoredBy, known, known']
  | some s =>
      obtain ⟨s', known', becomes⟩ := h.becomes known
      cases becomes <;> simp only [Switchboard.ignoredBy, known, known']

end Switchboard

namespace Service

/-- The same setup, and the same applications ignored. -/
structure Alike (s s' : Service) : Prop where
  config : s'.config = s.config
  analyzers : s'.analyzers = s.analyzers
  assembler : s'.assembler = s.assembler
  threadName : s'.threadName = s.threadName
  threadId : s'.threadId = s.threadId
  ignored : s'.ignoredApplications = s.ignoredApplications

/-- Besides, nothing was delivered and no context opened. -/
structure Undelivered (s s' : Service) : Prop extends Alike s s' where
  dispatcher : s'.dispatcher = s.dispatcher
  nextContext : s'.nextContext = s.nextContext

def blank (context : Nat) (s : Service) : Recorder where
  limits := s.config.limits
  analyzers := s.analyzers
  identity := ⟨context, s.threadName, s.threadId⟩

/-- A trace is in progress in a context, or could begin there. -/
structure Tracing (context : Nat) (plans : List Plan) (hints : Hints) (r : Recorder) (s : Service) :
    Prop extends Sound s where
  known : s.recorder? context = some r
  timely : r.Timely s.clock.now
  coherent : r.Coherent s.clock.zero
  setup : r.setup = (s.blank context).setup
  plans : r.plans = plans
  hints : r.hints = hints

section
variable {s s' s'' : Service} {context : Nat} {plan : Plan} {plans : List Plan} {hints : Hints}
  {r : Recorder} {op : Operation}

theorem Alike.refl (s : Service) : s.Alike s := ⟨rfl, rfl, rfl, rfl, rfl, rfl⟩

theorem Alike.trans (first : s.Alike s') (next : s'.Alike s'') : s.Alike s'' where
  config := next.config.trans first.config
  analyzers := next.analyzers.trans first.analyzers
  assembler := next.assembler.trans first.assembler
  threadName := next.threadName.trans first.threadName
  threadId := next.threadId.trans first.threadId
  ignored := next.ignored.trans first.ignored

theorem Alike.blank (alike : s.Alike s') (context : Nat) : s'.blank context = s.blank context := by
  rw [Service.blank, Service.blank, alike.config, alike.analyzers, alike.threadName, alike.threadId]

theorem Undelivered.refl (s : Service) : s.Undelivered s := ⟨.refl s, rfl, rfl⟩

theorem Undelivered.trans (first : s.Undelivered s') (next : s'.Undelivered s'') :
    s.Undelivered s'' where
  toAlike := first.toAlike.trans next.toAlike
  dispatcher := next.dispatcher.trans first.dispatcher
  nextContext := next.nextContext.trans first.nextContext

theorem undelivered_record (context : Nat) (r : Recorder) (call : Recorder.Call) (s : Service) :
    s.Undelivered (s.record context r call) := ⟨⟨rfl, rfl, rfl, rfl, rfl, rfl⟩, rfl, rfl⟩

theorem undelivered_setRecorder (context : Nat) (r : Recorder) (s : Service) :
    s.Undelivered (s.setRecorder context r) := ⟨⟨rfl, rfl, rfl, rfl, rfl, rfl⟩, rfl, rfl⟩

theorem undelivered_withBoard {board : Switchboard} (events : Switchboard.Events s.board board) :
    s.Undelivered (s.withBoard board) :=
  ⟨⟨rfl, rfl, rfl, rfl, rfl, events.continues.ignoredBy ignoredStrategy⟩, rfl, rfl⟩

theorem undelivered_probe (context : Nat) (probe : Probe) (s : Service) :
    s.Undelivered (s.shouldCollect context probe).2 :=
  undelivered_withBoard (Switchboard.events_collect _ s.board)

theorem Tracing.withBoard (h : Tracing context plans hints r s) (board : Switchboard) :
    Tracing context plans hints r (s.withBoard board) :=
  ⟨⟨h.table, h.numbered⟩, h.known, h.timely, h.coherent, h.setup, h.plans, h.hints⟩

theorem Tracing.probed (h : Tracing context plans hints r s) (probe : Probe) :
    Tracing context plans hints r (s.shouldCollect context probe).2 := h.withBoard _

/-- An answered call on the recorder of the context keeps the trace in progress, whatever it
does to plans and hints. -/
theorem Tracing.recorded (h : Tracing context plans hints r s) (call : Recorder.Call)
    (answered : (Recorder.step ⟨s.clock, r⟩ call).1.isDone) :
    Tracing context (Recorder.step ⟨s.clock, r⟩ call).2.recorder.plans
      (Recorder.step ⟨s.clock, r⟩ call).2.recorder.hints
      (Recorder.step ⟨s.clock, r⟩ call).2.recorder (s.record context r call) where
  toSound := h.toSound.event (.recorded h.known call)
  known := recorder?_record h.known call
  timely := (h.timely.step (s := ⟨s.clock, r⟩) call).2
  coherent := h.coherent.step (s := ⟨s.clock, r⟩) answered
  setup := (Recorder.setup_step ⟨s.clock, r⟩ call).trans h.setup
  plans := rfl
  hints := rfl

theorem Tracing.limits (h : Tracing context plans hints r s) : r.limits = s.config.limits :=
  congrArg Prod.fst h.setup

theorem Tracing.analyzers (h : Tracing context plans hints r s) : r.analyzers = s.analyzers :=
  congrArg (·.2.1) h.setup

theorem Tracing.identity (h : Tracing context plans hints r s) :
    r.identity = ⟨context, s.threadName, s.threadId⟩ := congrArg (·.2.2) h.setup

/-- With plans for two frames there is a frame on top and one below it. -/
theorem Tracing.frames {below : Plan} (h : Tracing context (plan :: below :: plans) hints r s) :
    ∃ e cs p siblings outer, r.openFrames = .node e cs :: .node p siblings :: outer ∧
      e.op.plan = plan := by
  have known := h.plans
  unfold Recorder.plans at known
  match frames : r.openFrames with
  | [] => rw [frames] at known; cases known
  | [_] => rw [frames] at known; cases known
  | .node e cs :: .node p siblings :: outer =>
      rw [frames] at known
      exact ⟨e, cs, p, siblings, outer, rfl, (List.cons.inj known).1⟩

theorem answer_enter (known : s.recorder? context = some r) (op : Operation) :
    (s.enter context op).1 = (r.enter s.clock op).1 := by
  simp only [enter, known]

theorem Tracing.isAborted (h : Tracing context plans hints r s)
    (sound : hints.flag HintName.aborted = false) : r.isAborted = false := by
  rw [Recorder.isAborted, h.hints]
  exact sound

/-- Entering is answered, or an analyzer has crashed. -/
theorem Tracing.answers (h : Tracing context plans hints r s)
    (sound : hints.flag HintName.aborted = false) (op : Operation) :
    (s.enter context op).1.isDone ∨
      ∃ message s', s.enter context op = (.crashed message, s') ∧ ¬s.analyzers.Quiet := by
  cases answer : (s.enter context op).1 with
  | done number => exact .inl rfl
  | crashed message =>
      refine .inr ⟨message, (s.enter context op).2, Prod.ext answer rfl, fun quiet => ?_⟩
      have done := Recorder.isDone_enter (h.analyzers ▸ quiet) (h.isAborted sound) s.clock op
      rw [← answer_enter h.known, answer] at done
      cases done

/-- A frame is opened on the others while there is room. -/
theorem Tracing.entered (h : Tracing context (plan :: plans) hints r s)
    (sound : hints.flag HintName.aborted = false) (room : r.frameCount < s.config.maxFrames)
    (answered : (s.enter context op).1.isDone) :
    ∃ number r' s' e outer, s.enter context op = (.done number, s') ∧ s.Undelivered s' ∧
      Tracing context (op.plan :: plan :: plans) hints r' s' ∧ r'.frameCount = r.frameCount + 1 ∧
      r'.openFrames = .node e [] :: outer ∧ e.id = number ∧ e.op.plan = op.plan ∧
      e.op.hasException = op.hasException := by
  rw [answer_enter h.known] at answered
  obtain ⟨candidate, r', entered, enters, kept⟩ :=
    Recorder.enter_of_room (h.isAborted sound) (by rwa [h.limits]) answered
  obtain ⟨e, outer, frames, entry, -⟩ := enters.frames
  have plans' : r'.plans = op.plan :: plan :: plans := by
    rw [Recorder.plans_opens enters.toOpens, h.plans]
  have inner : ((r.enter s.clock op).1.isDone && (r.enter s.clock op).2.atRoot) = false := by
    have two : r'.openFrames.length = plans.length + 2 :=
      (Recorder.length_plans r').symm.trans (congrArg List.length plans')
    rw [entered]
    simp [Recorder.atRoot, two]
  have recorded := h.recorded (.enter op) (by
    change ((r.enter s.clock op).1.map _).isDone
    rw [entered]
    rfl)
  refine ⟨r.lastId + 1, r', s.record context r (.enter op), e, outer, ?_,
    undelivered_record _ _ _ _, ?_, enters.frameCount, frames, ?_, ?_, ?_⟩
  · rw [enter_inner h.known inner, entered]
  · have same : (Recorder.step ⟨s.clock, r⟩ (.enter op)).2.recorder = r' := by
      change (r.enter s.clock op).2 = r'
      rw [entered]
    rw [same, plans', kept, h.hints] at recorded
    exact recorded
  · exact congrArg FrameEntry.id entry
  · exact congrArg (fun e => e.op.plan) entry
  · have marks := congrArg (fun e => e.op.hasException) entry
    dsimp only [FrameEntry.unmarked] at marks
    rw [Operation.hasException_unmarked, Operation.hasException_unmarked] at marks
    exact marks

/-- The frame on top is left if its plan is calm, and stands among the closed ones then. -/
theorem Tracing.left {below : Plan} (h : Tracing context (plan :: below :: plans) hints r s)
    (calm : plan.Calm) :
    ∃ info r' s', s.exit context = (.done (some info), s') ∧ s.Undelivered s' ∧
      Tracing context (below :: plans) hints r' s' ∧ r'.frameCount = r.frameCount ∧
      ∀ e cs outer, r.openFrames = .node e cs :: outer →
        .node (e.left s.clock) cs ∈ Frame.closedParts r'.openFrames := by
  obtain ⟨e, cs, p, siblings, outer, frames, own⟩ := h.frames
  have quiet : e.op.Calm := by
    rw [← own] at calm
    exact calm
  have exited := Recorder.exit_below frames quiet s.clock
  have recorded := h.recorded .exit (by
    change ((r.exit s.clock).2.2.map _).isDone
    rw [exited]
    rfl)
  let r' : Recorder := { r with
    openFrames := .node p (siblings ++ [.node (e.left s.clock) cs]) :: outer
    depth := r.depth - 1 }
  have same : (Recorder.step ⟨s.clock, r⟩ .exit).2.recorder = r' := by
    change (r.exit s.clock).2.1 = _
    rw [exited]
  have rest : below :: plans = p.op.plan :: outer.map fun frame => frame.entry.op.plan := by
    have known := h.plans
    rw [Recorder.plans, frames] at known
    exact (List.cons.inj known).2.symm
  refine ⟨e.left s.clock, r', s.record context r .exit, ?_, undelivered_record _ _ _ _, ?_, rfl, ?_⟩
  · have left := exits h.known
    generalize s.exit context = result at left
    cases left with
    | crashed answered => rw [exited] at answered; cases answered
    | idle answered => rw [exited] at answered; cases answered
    | inner answered => rw [exited] at answered; cases answered; rfl
    | root answered => rw [exited] at answered; cases answered
  · rw [same] at recorded
    rw [rest, ← h.hints]
    exact recorded
  · intro e' cs' outer' top
    rw [frames] at top
    cases top
    refine List.mem_append_left _ (Frame.mem_partsIn_append.mpr (.inr ?_))
    exact Frame.mem_partsIn_of_mem (List.mem_singleton_self _)

/-- The current operation may change in whatever its plan does not tell. -/
theorem Tracing.changed (h : Tracing context plans hints r s) {f : Operation → Operation}
    (same : ∀ op, (f op).plan = op.plan) :
    Tracing context plans hints (r.withOperation f)
      (s.withRecorder context () fun recorder => ((), recorder.withOperation f)).2 := by
  have recorded := h.recorded (.change f) rfl
  rw [withRecorder_known h.known]
  refine ⟨recorded.toSound, recorded.known, recorded.timely, recorded.coherent, recorded.setup,
    ?_, ?_⟩
  · rw [Recorder.plans_withOperation same, h.plans]
  · have changed := Recorder.changes f r
    generalize r.withOperation f = r' at changed
    cases changed <;> exact h.hints

/-- A closed frame is discarded with all below it if nothing failed there; else nothing happens. -/
theorem Tracing.discarded (h : Tracing context plans hints r s) {target : Frame}
    (closed : target ∈ Frame.closedParts r.openFrames) :
    ∃ r' s', s.discard context target.id = (!target.containsException, s') ∧ s.Undelivered s' ∧
      Tracing context plans hints r' s' ∧
      r'.frameCount + (if target.containsException then 0 else target.size) = r.frameCount := by
  have recorded := h.recorded (.discard target.id) rfl
  have known : s.discard context target.id =
      ((r.discard target.id).1, s.setRecorder context (r.discard target.id).2) :=
    withRecorder_known h.known
  change Tracing context (r.discard target.id).2.plans (r.discard target.id).2.hints
    (r.discard target.id).2 (s.setRecorder context (r.discard target.id).2) at recorded
  rw [Recorder.plans_discard, h.plans] at recorded
  cases failed : target.containsException with
  | false =>
      have gone := h.timely.discard_closed closed (Frame.clean_iff.mpr failed)
      have counted : target.size ≤ r.frameCount := by
        obtain ⟨parent, left, -, pruned⟩ := h.timely.timed.prune_of_closedPart h.timely.nodup closed
        rw [h.coherent.frameCount, Frame.sizeAll_prune pruned]
        exact Nat.le_add_right _ _
      rw [gone] at known recorded
      rw [← h.hints, if_neg Bool.false_ne_true]
      exact ⟨_, _, known, undelivered_setRecorder _ _ _, recorded, Nat.sub_add_cancel counted⟩
  | true =>
      have refused : (r.discard target.id).1 = false := by
        rw [Bool.eq_false_iff, ne_eq, h.timely.discard_succeeds_iff]
        rintro (⟨root, isRoot, same⟩ | ⟨other, part, same, clean⟩)
        · exact Frame.id_ne_of_closedPart h.timely.nodup closed root (List.mem_of_getLast? isRoot) same
        · have found := Frame.find_of_part h.timely.nodup (Frame.mem_partsIn_iff.mpr (.inr closed))
          have found' := Frame.find_of_part h.timely.nodup (Frame.mem_partsIn_iff.mpr (.inr part))
          rw [same, found] at found'
          cases found'
          exact absurd (Frame.clean_iff.mp clean) (by rw [failed]; exact Bool.noConfusion)
      have still := Recorder.discard_refused refused
      rw [refused, still] at known
      rw [still, h.hints] at recorded
      exact ⟨r, _, known, undelivered_setRecorder _ _ _, recorded, rfl⟩

end

end Service
end SpanCapture
