import SpanCapture.Proofs.Service.Tracing

/-! Whole traces in one context: a context is opened, its root is entered, hints are given, and at
last the root is left. If nothing speaks against its delivery, exactly one trace is handed to the
dispatcher then, with all frames counted so far; and the context is as it was when it was opened. -/
namespace SpanCapture

/-- Hints of a trace of a known application that nothing speaks against. -/
structure Hints.Deliverable (application : Option String) (hints : Hints) : Prop where
  aborted : hints.flag HintName.aborted = false
  overdue : hints.flag HintName.overdue = false
  discard : hints.flag HintName.discard = false
  application : hints.text? HintName.application = application

theorem Hints.Deliverable.set {application : Option String} {hints : Hints}
    (h : hints.Deliverable application) {key : String} (value : Value)
    (others : key ∉ [HintName.aborted, HintName.overdue, HintName.discard, HintName.application]) :
    Hints.Deliverable application (hints.set key value) := by
  simp only [List.mem_cons, List.not_mem_nil, or_false, not_or] at others
  obtain ⟨aborted, overdue, discard, name⟩ := others
  constructor
  · rw [Hints.flag_set_of_ne value (Ne.symm aborted), h.aborted]
  · rw [Hints.flag_set_of_ne value (Ne.symm overdue), h.overdue]
  · rw [Hints.flag_set_of_ne value (Ne.symm discard), h.discard]
  · rw [Hints.text?, Hints.value?_set_of_ne value (Ne.symm name)]
    exact h.application

theorem Hints.Deliverable.named {hints : Hints} (h : hints.Deliverable none) (name : String) :
    Hints.Deliverable (some name) (hints.set HintName.application (.text name)) where
  aborted := (Hints.flag_set_of_ne _ (by decide) hints).trans h.aborted
  overdue := (Hints.flag_set_of_ne _ (by decide) hints).trans h.overdue
  discard := (Hints.flag_set_of_ne _ (by decide) hints).trans h.discard
  application := by
    rw [Hints.text?, Hints.value?_set_self]
    rfl

namespace Service

/-- The resolver finds no ignored application for a trace with the name of an application among its
hints, or without one. -/
def Welcomes (s : Service) (application : Option String) : Prop :=
  ∀ (hints : Hints) (identity : Identity), hints.text? HintName.application = application →
    (s.assembler.resolver hints identity).getD Assembler.unknownApplication ∉ s.ignoredApplications

section
variable {s s' : Service} {context : Nat} {plan : Plan} {plans : List Plan} {hints : Hints}
  {r : Recorder} {op : Operation} {application : Option String}

theorem Alike.welcomes (alike : s.Alike s') (h : s.Welcomes application) :
    s'.Welcomes application := by
  unfold Welcomes
  rw [alike.assembler, alike.ignored]
  exact h

/-- The resolver that goes by hints finds the name in the hint, if it is not empty. -/
theorem welcomes_byHint (byHint : s.assembler.resolver = .byHint)
    (wanted : ((application.filter (!·.isEmpty)).getD Assembler.unknownApplication) ∉
      s.ignoredApplications) : s.Welcomes application := by
  intro hints identity named
  have found : Resolver.byHint hints identity = application.filter (!·.isEmpty) := by
    unfold Resolver.byHint
    rw [named]
    cases application with
    | none => rfl
    | some name =>
        cases empty : name.isEmpty <;> simp [Option.filter, empty]
  rw [byHint, found]
  exact wanted

theorem alike_newContext (s : Service) : s.Alike s.newContext.2 := ⟨rfl, rfl, rfl, rfl, rfl, rfl⟩

theorem Sound.tracing (sound : s.Sound) :
    Tracing s.nextContext [] [] (s.blank s.nextContext) s.newContext.2 where
  toSound := sound.newContext
  known := (recorder?_newContext sound s.nextContext).trans (if_pos rfl)
  timely := .idle rfl
  coherent := .fresh rfl
  setup := rfl
  plans := rfl
  hints := rfl

theorem Tracing.hinted (h : Tracing context plans hints r s) (key : String) (value : Value) :
    Tracing context plans (hints.set key value) (r.setHint key value)
      (s.setHint context key value) := by
  have recorded := h.recorded (.setHint key value) rfl
  rw [setHint, withRecorder_known h.known]
  refine ⟨recorded.toSound, recorded.known, recorded.timely, recorded.coherent, recorded.setup,
    h.plans, ?_⟩
  rw [← h.hints]
  rfl

theorem undelivered_setHint (context : Nat) (key : String) (value : Value) (s : Service) :
    s.Undelivered (s.setHint context key value) := by
  unfold setHint withRecorder
  split
  · exact .refl s
  · exact undelivered_setRecorder _ _ _

/-- Whether its trace is downgraded or not, a root just opened stays open. -/
theorem Tracing.decided (h : Tracing context plans hints r s) (fair : hints.Deliverable application) :
    ∃ r' hints', Tracing context plans hints' r' (s.decideRoot context r) ∧
      s.Undelivered (s.decideRoot context r) ∧ r'.frameCount = r.frameCount ∧
      hints'.Deliverable application := by
  let board := (s.board.decideRoot endpointStrategy).2
  have alike : s.Undelivered (s.withBoard board) :=
    undelivered_withBoard (Switchboard.events_decideRoot endpointStrategy s.board)
  have open' : Tracing context plans hints r (s.withBoard board) := h.withBoard board
  unfold decideRoot
  dsimp only
  split
  · have first := open'.hinted HintName.onlyEndpoints (.bool true)
    have second := first.hinted HintName.collectionLevel (.text "low")
    rw [setHint, withRecorder_known first.known] at second
    dsimp only at second
    rw [setHint, withRecorder_known open'.known, setRecorder_setRecorder] at second
    exact ⟨_, _, second, alike.trans (undelivered_setRecorder _ _ _), rfl,
      (fair.set _ (by decide)).set _ (by decide)⟩
  · exact ⟨r, hints, open', alike, rfl, fair⟩

/-- The root is opened in an idle context. -/
theorem Tracing.begun (h : Tracing context [] hints r s) (fair : hints.Deliverable application)
    (room : 0 < s.config.maxFrames) (answered : (s.enter context op).1.isDone) :
    ∃ number r' s' hints', s.enter context op = (.done number, s') ∧ s.Undelivered s' ∧
      Tracing context [op.plan] hints' r' s' ∧ r'.frameCount = 1 ∧
      hints'.Deliverable application := by
  have idle : r.openFrames = [] := List.map_eq_nil_iff.mp h.plans
  have none : r.frameCount = 0 := by
    rw [h.coherent.frameCount, idle]
    rfl
  rw [answer_enter h.known] at answered
  obtain ⟨candidate, entered, result, enters, kept⟩ :=
    Recorder.enter_of_room (h.isAborted fair.aborted) (by rw [none, h.limits]; exact room) answered
  have plans' : entered.plans = [op.plan] := by
    rw [Recorder.plans_opens enters.toOpens, h.plans]
  have root : entered.atRoot := by
    have one : entered.openFrames.length = 1 :=
      (Recorder.length_plans entered).symm.trans (congrArg List.length plans')
    simp [Recorder.atRoot, one]
  have recorded := h.recorded (.enter op) (by
    change ((r.enter s.clock op).1.map _).isDone
    rw [result]
    rfl)
  have same : (Recorder.step ⟨s.clock, r⟩ (.enter op)).2.recorder = entered := by
    change (r.enter s.clock op).2 = entered
    rw [result]
  rw [same, plans', kept, h.hints] at recorded
  obtain ⟨r', hints', tracing, alike, count, fair'⟩ := recorded.decided fair
  refine ⟨r.lastId + 1, r', _, hints', ?_, (undelivered_record context r (.enter op) s).trans alike,
    tracing, ?_, fair'⟩
  · simp only [enter, h.known, result, Outcome.isDone_done, root, Bool.and_self, if_true]
    have record : s.record context r (.enter op) = s.setRecorder context entered := by
      rw [record, same]
      rfl
    rw [record]
  · rw [count, enters.frameCount, none]

/-- The root is left, and its trace delivered to the dispatcher. -/
theorem Tracing.finished (h : Tracing context [plan] hints r s) (settled : plan.pending = [])
    (fair : hints.Deliverable application) (welcome : s.Welcomes application)
    (plain : s.assembler.diagnoseUnknown = false) :
    ∃ info s' trace, s.exit context = (.done (some info), s') ∧ s'.Sound ∧ s.Alike s' ∧
      s'.nextContext = s.nextContext ∧ s'.dispatcher = (s.dispatcher.dispatch trace).2 ∧
      s'.recorder? context = some (s.blank context) ∧ trace.size = r.frameCount ∧
      trace.root.entry.op.label = plan.label := by
  obtain ⟨e, cs, frames, own⟩ : ∃ e cs, r.openFrames = [.node e cs] ∧ e.op.plan = plan := by
    have known := h.plans
    unfold Recorder.plans at known
    match frames : r.openFrames with
    | [] => rw [frames] at known; cases known
    | [.node e cs] =>
        rw [frames] at known
        exact ⟨e, cs, rfl, (List.cons.inj known).1⟩
    | _ :: _ :: _ => rw [frames] at known; cases known
  have quiet : e.op.Settled := (congrArg Plan.pending own).trans settled
  have exited := Recorder.exit_last frames quiet.calm s.clock
  have left : (e.left s.clock).op = e.op := by
    rw [FrameEntry.left, Operation.finalize_settled quiet]
    rfl
  generalize completion : CompletedTrace.mk (.node (e.left s.clock) cs) r.hints r.endpoint
    (r.start.getD (e.op.finalize s.clock).1.instant) r.identity = completed at exited
  have root : completed.root = .node (e.left s.clock) cs := by rw [← completion]
  have answered : (r.exit s.clock).2.2 = .done (some ⟨e.left s.clock, some completed⟩) := by
    rw [exited]
  have finished := h.timely.finished_exit answered
  -- The service right after its recorder has completed the trace.
  let recorded := s.record context r .exit
  have kept : recorded.dumpReason? completed = none := by
    have wanted : ¬s.ignoredApplications.contains
        (recorded.assembler.applicationOf completed) := by
      rw [List.contains_iff_mem]
      refine welcome completed.hints completed.identity ?_
      rw [← completion, ← fair.application]
      exact congrArg (Hints.text? HintName.application) h.hints
    have flags : completed.hints = hints := by
      rw [← completion]
      exact h.hints
    change Assembler.dumpReason? s.ignoredApplications _ _ _ = none
    rw [Assembler.dumpReason?, if_neg wanted, flags, fair.overdue, fair.discard]
    rfl
  have delivered := finish_finished finished recorded
  rw [kept] at delivered
  have exit : s.exit context = (.done (some (e.left s.clock)), (recorded.finish completed).2) := by
    have left := exits h.known
    generalize s.exit context = result at left
    cases left with
    | crashed other => rw [answered] at other; cases other
    | idle other => rw [answered] at other; cases other
    | inner other => rw [answered] at other; cases other
    | root other =>
        rw [answered] at other
        cases other
        change (((recorded.finish completed).1.map _, _) : Outcome _ × Service) = _
        rw [delivered]
        rfl
  refine ⟨_, _, recorded.traceOf completed, exit, ?_, ?_, ?_, ?_, ?_, ?_, ?_⟩
  · exact (h.toSound.event (.recorded h.known .exit)).finish completed
  · rw [delivered]
    exact ⟨rfl, rfl, rfl, rfl, rfl, rfl⟩
  · rw [delivered]
    rfl
  · rw [delivered]
    rfl
  · rw [recorder?_finish, recorder?_record h.known]
    have cleared : (Recorder.step ⟨s.clock, r⟩ .exit).2.recorder = r.cleared := by
      change (r.exit s.clock).2.1 = _
      rw [exited]
    rw [cleared]
    refine congrArg some ?_
    rw [blank, ← h.limits, ← h.analyzers, ← h.identity]
    rfl
  · have whole : s.assembler.rootOf completed = completed.root :=
      if_neg fun asked => by rw [plain] at asked; cases asked.2
    change (s.assembler.rootOf completed).size = _
    rw [whole, root, h.coherent.frameCount, frames]
    rfl
  · have whole : s.assembler.rootOf completed = completed.root :=
      if_neg fun asked => by rw [plain] at asked; cases asked.2
    change (s.assembler.rootOf completed).entry.op.label = _
    rw [whole, root, ← own]
    exact congrArg Operation.label left

end

end Service
end SpanCapture
