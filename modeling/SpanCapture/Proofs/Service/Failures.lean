import SpanCapture.Proofs.Recorder.Failures
import SpanCapture.Proofs.Service.Timeline

/-! Failures and discarding, seen from outside. What the calls on a context and their answers
say about its trace decides at the exit of the root: with a failure the trace is delivered,
whatever was discarded; without one a discarded root takes its trace with it. -/
namespace SpanCapture
namespace Service

/-- Writes down what a call on a context says about the trace in progress. A trace starts with
a frame opened while none was open, or after the one before grew too large. What is left is the
frame on top, as its scripts leave it. -/
def noteTrace (id : Nat) (log : TraceLog) (m : Moment Service Call (Outcome Answer)) : TraceLog :=
  match m.before.recorder? id with
  | none => log
  | some r =>
    match m.call, m.answer with
    | .enter target _, .done (.entered number) =>
      if target = id then
        if r.isBuilding && !r.isAborted then log else { root := number }
      else log
    | .exit target, .done (.exited _) =>
      if target = id then
        match r.top? with
        | some frame => log.leave (frame.entry.left m.before.clock)
        | none => log
      else log
    | .discard target frame, .done (.flag done) =>
      if target = id then log.discard frame done else log
    | _, _ => log

def traceLog (id : Nat) (history : List (Moment Service Call (Outcome Answer))) : TraceLog :=
  history.foldl (noteTrace id) {}

def Call.hint? : Call → Option (Nat × String)
  | .setHint id key _ | .setHintObject id key _ | .setHintAtRoot id key _ => some (id, key)
  | _ => none

/-- Nothing crashed, and nobody stored the hints by which traces are dropped. -/
def Unmeddled (id : Nat) (m : Moment Service Call (Outcome Answer)) : Prop :=
  m.answer.isDone ∧ m.call.hint? ≠ some (id, HintName.overdue) ∧
    m.call.hint? ≠ some (id, HintName.discard)

instance (id : Nat) : DecidablePred (Unmeddled id) :=
  fun m => inferInstanceAs (Decidable (m.answer.isDone = true ∧ _ ≠ _ ∧ _ ≠ _))

section
variable {s s' : Service} {id : Nat} {r r' : Recorder} {log : TraceLog} {call : Call}
  {answer : Answer}

theorem noteTrace_other (elsewhere : call.target? ≠ some id) (outcome : Outcome Answer)
    (s s' : Service) (log : TraceLog) : noteTrace id log ⟨s, call, outcome, s'⟩ = log := by
  unfold noteTrace
  dsimp only
  split
  · rfl
  · split
    · exact if_neg fun same => elsewhere (congrArg some same)
    · exact if_neg fun same => elsewhere (congrArg some same)
    · exact if_neg fun same => elsewhere (congrArg some same)
    · rfl

theorem Unmeddled.flag {key stored : String} {m : Moment Service Call (Outcome Answer)}
    (h : Unmeddled id m) (hint : m.call.hint? = some (id, stored)) (value : Hint) (hints : Hints)
    (decides : key = HintName.overdue ∨ key = HintName.discard) :
    Hints.flag key (hints.insert stored value) = hints.flag key := by
  have apart : key ≠ stored := by
    intro same
    rw [← same] at hint
    obtain ⟨-, notOverdue, notDiscard⟩ := h
    rcases decides with rfl | rfl
    · exact notOverdue hint
    · exact notDiscard hint
  unfold Hints.flag Hints.value?
  rw [Keyed.find?_insert_of_ne value apart]

theorem flag_downgraded {key : String} (decides : key = HintName.overdue ∨ key = HintName.discard)
    (r : Recorder) : (downgraded r).hints.flag key = r.hints.flag key := by
  rcases decides with rfl | rfl
  · exact (Hints.flag_set_of_ne _ (by decide) _).trans (Hints.flag_set_of_ne _ (by decide) _)
  · exact (Hints.flag_set_of_ne _ (by decide) _).trans (Hints.flag_set_of_ne _ (by decide) _)

/-- Whatever an unmeddled call does to the recorder, its log follows. -/
theorem followed_affected (timely : r.Timely s.clock.now) (h : r.Followed log)
    (known : s.recorder? id = some r) (affected : Affects s id r call answer r')
    (unmeddled : Unmeddled id ⟨s, call, .done answer, s'⟩) :
    r'.Followed (noteTrace id log ⟨s, call, .done answer, s'⟩) := by
  unfold noteTrace
  rw [known]
  cases affected with
  | enter done =>
      dsimp only
      rw [if_pos rfl]
      exact h.enter done
  | @enterDowngraded op number entered done =>
      dsimp only
      rw [if_pos rfl]
      exact (h.enter done).hint rfl rfl fun _ decides => flag_downgraded decides entered
  | exit done =>
      dsimp only
      rw [if_pos rfl]
      exact h.exit done
  | discard frame =>
      dsimp only
      rw [if_pos rfl]
      exact h.discard timely frame
  | dump => exact .cleared log r
  | setHint key value => exact h.hint rfl rfl fun _ => unmeddled.flag rfl _ r.hints
  | setHintObject key object => exact h.hint rfl rfl fun _ => unmeddled.flag rfl _ r.hints
  | setHintAtRoot key value =>
      dsimp only
      unfold Recorder.setHintAtRoot
      split
      · exact h.hint rfl rfl fun _ => unmeddled.flag rfl _ r.hints
      · exact h
  | change f => exact h.withOperation f
  | act =>
      rw [Recorder.act_eq_withOperation]
      exact h.withOperation _
  | sweep =>
      dsimp only
      split
      · exact .cleared log r
      · exact h
  | other elsewhere awake =>
      have same := noteTrace_other elsewhere (.done answer) s s' log
      unfold noteTrace at same
      rw [known] at same
      dsimp only at same ⊢
      rw [same]
      exact h

/-- One unmeddled call keeps the log and the recorder of a context together. -/
theorem followed_step (timely : s.Timely) (h : ∀ r, s.recorder? id = some r → r.Followed log)
    (unmeddled : Unmeddled id (.at step s call)) (known' : (step s call).2.recorder? id = some r') :
    r'.Followed (noteTrace id log (.at step s call)) := by
  cases known : s.recorder? id with
  | none =>
      obtain ⟨-, frames, hints⟩ := recorder?_step_unknown timely.toSound known known'
      constructor
      · rw [hints]
        rfl
      · exact fun busy => absurd frames busy
  | some r =>
      by_cases kept : call = .dropContext id
      · subst kept
        cases (recorder?_dropContext id s).symm.trans known'
      · obtain ⟨answer, done⟩ := Outcome.isDone_iff.mp unmeddled.1
        change (step s call).1 = _ at done
        obtain ⟨left, same, affected⟩ := affects timely.toSound known done kept
        rw [same] at known'
        cases known'
        rw [Moment.at, done] at unmeddled ⊢
        exact followed_affected (timely.recorders id r known) (h r known) known affected unmeddled

def applicationOf (r : Recorder) (s : Service) : String :=
  (s.assembler.resolver r.hints r.identity).getD Assembler.unknownApplication

/-- What the exit of a root does to the dispatcher: its trace is dispatched, or dropped for a
reason. -/
theorem exit_root (timely : s.Timely) (known : s.recorder? id = some r) (atRoot : r.atRoot)
    (calm : (s.exit id).1.isDone) :
    ∃ info completed, (r.exit s.clock).2.2 = .done (some ⟨info, some completed⟩) ∧
      (s.exit id).1 = .done (some info) ∧
      (s.exit id).2.dispatcher = match (s.record id r .exit).dumpReason? completed with
        | some _ => s.dispatcher
        | none => (s.dispatcher.dispatch ((s.record id r .exit).traceOf completed)).2 := by
  have whole {left : Option Exited} (answered : (r.exit s.clock).2.2 = .done left) :
      ∃ info trace, left = some ⟨info, some trace⟩ := Recorder.exit_atRoot atRoot answered
  have left := exits known
  generalize s.exit id = result at left calm
  cases left with
  | crashed => cases calm
  | idle answered =>
      obtain ⟨_, _, none⟩ := whole answered
      cases none
  | inner answered =>
      obtain ⟨_, _, inner⟩ := whole answered
      cases inner
  | @root info completed answered =>
      have finished := (timely.recorders id r known).finished_exit answered
      refine ⟨info, completed, answered, ?_, ?_⟩
      · rw [finish_finished finished]
        rfl
      · rw [finish_finished finished]
        cases (s.record id r .exit).dumpReason? completed <;> rfl

/-- With a failure among the frames that were left, the exit of the root dispatches the trace. -/
theorem dispatched_of_failure {info : FrameEntry} (timely : s.Timely) (followed : r.Followed log)
    (known : s.recorder? id = some r) (atRoot : r.atRoot)
    (answer : (s.exit id).1 = .done (some info))
    (failed : ∃ x ∈ (log.leave info).left, x.op.hasException)
    (wanted : ¬s.ignoredApplications.contains (s.applicationOf r)) :
    ∃ trace, (s.exit id).2.dispatcher = (s.dispatcher.dispatch trace).2 ∧
      trace.root.id = log.root ∧
      (∀ x ∈ (log.leave info).left, x.op.hasException →
        ∃ y ∈ trace.root.entries, y.unmarked = x.unmarked) ∧
      trace.hints.find? HintName.hasException = some (.bool true) := by
  obtain ⟨left, completed, answered, same, dispatched⟩ :=
    exit_root timely known atRoot (by rw [answer]; rfl)
  have own : info = left := Option.some.inj (Outcome.done.inj (answer.symm.trans same))
  subst own
  obtain ⟨hints, identity, root, failures, -⟩ := (followed.logged_atRoot atRoot).complete answered
  have contains : (s.assembler.rootOf completed).containsException := by
    obtain ⟨x, member, exception⟩ := failed
    obtain ⟨y, inside, exception', -⟩ := Frame.exists_of_failures failures member exception
    rw [Assembler.containsException_rootOf, Frame.containsException_eq, List.any_eq_true]
    exact ⟨y, inside, exception'⟩
  have kept : (s.record id r .exit).dumpReason? completed = none := by
    refine Assembler.dumpReason?_of_exception contains ?_ ?_
    · change ¬s.ignoredApplications.contains
        ((s.assembler.resolver completed.hints completed.identity).getD _)
      rw [hints, identity]
      exact wanted
    · rw [hints]
      exact followed.inTime
  rw [kept] at dispatched
  refine ⟨_, dispatched, ?_, ?_, ?_⟩
  · exact (Assembler.id_rootOf s.assembler completed).trans root
  · intro x member exception
    obtain ⟨y, inside, -, same⟩ := Frame.exists_of_failures failures member exception
    refine ⟨y, ?_, same⟩
    rw [Frame.entries_eq]
    exact Assembler.mem_rootOf s.assembler inside
  · exact Assembler.hasException_traceOf contains _ _ _ _

/-- Without a failure left in the trace, a discarded root takes it away. -/
theorem dropped_of_discarded_root {info : FrameEntry} (timely : s.Timely) (followed : r.Followed log)
    (known : s.recorder? id = some r) (atRoot : r.atRoot)
    (answer : (s.exit id).1 = .done (some info)) (discarded : log.rootDiscarded)
    (gone : ∀ x ∈ (log.leave info).left, x.op.hasException → x.id ∈ log.taken) :
    (s.exit id).2.dispatcher = s.dispatcher := by
  obtain ⟨left, completed, answered, same, dispatched⟩ :=
    exit_root timely known atRoot (by rw [answer]; rfl)
  have own : info = left := Option.some.inj (Outcome.done.inj (answer.symm.trans same))
  subst own
  have logged := followed.logged_atRoot atRoot
  obtain ⟨hints, -, -, failures, taken⟩ := logged.complete answered
  have clean : (s.assembler.rootOf completed).containsException = false := by
    rw [Assembler.containsException_rootOf, Frame.containsException_eq, List.any_eq_false]
    intro y inside exception
    obtain ⟨x, member, exception', alike⟩ := Frame.exists_of_failures failures.symm inside exception
    have number := congrArg FrameEntry.id alike
    rw [FrameEntry.id_unmarked, FrameEntry.id_unmarked] at number
    refine taken x.id (gone x member exception') ?_
    rw [number]
    exact List.mem_map_of_mem (f := FrameEntry.id) inside
  have discard : completed.hints.flag HintName.discard := by
    rw [hints]
    exact logged.discarded discarded
  obtain ⟨reason, dropped⟩ := Assembler.dumpReason?_of_discard clean discard
  have why : (s.record id r .exit).dumpReason? completed = some reason := dropped
  rw [dispatched, why]

/-- The exit of a root that is answered goes into the log. -/
theorem traceLog_exit {info : FrameEntry} (known : s.recorder? id = some r)
    (top : r.top?.map (·.entry.left s.clock) = some info)
    (answer : (s.exit id).1 = .done (some info))
    (history : List (Moment Service Call (Outcome Answer))) :
    traceLog id (history ++ [.at step s (.exit id)]) = (traceLog id history).leave info := by
  have answered : (step s (.exit id)).1 = .done (.exited (some info)) := by
    change (s.exit id).1.map Answer.exited = _
    rw [answer]
    rfl
  rw [traceLog, List.foldl_append, List.foldl_cons, List.foldl_nil, ← traceLog, noteTrace, Moment.at]
  obtain ⟨frame, here, left⟩ := Option.map_eq_some_iff.mp top
  dsimp only
  rw [known, answered]
  dsimp only
  rw [if_pos rfl, here, ← left]

/-- However frames are opened, left and discarded in a context: if a frame of a trace was left
with a failure, the exit of the root dispatches the trace with this frame in it and says that
there was a failure. If a discard was called on the root and no frame but those gone was left with
a failure, nothing is dispatched. -/
theorem failures_outlast_discards {setup : Setup} {first s : Service} {id : Nat} {r : Recorder}
    {history : List (Moment Service Call (Outcome Answer))}
    (built : Service.build setup = .done (.ok first)) (run : Run step (Unmeddled id) first history s)
    (known : s.recorder? id = some r) (atRoot : r.atRoot) (calm : (s.exit id).1.isDone) :
    let log := traceLog id (history ++ [.at step s (.exit id)])
    ((∃ x ∈ log.left, x.op.hasException) →
      ¬s.ignoredApplications.contains (s.applicationOf r) →
      ∃ trace, (s.exit id).2.dispatcher = (s.dispatcher.dispatch trace).2 ∧
        trace.root.id = log.root ∧
        (∀ x ∈ log.left, x.op.hasException → ∃ y ∈ trace.root.entries, y.unmarked = x.unmarked) ∧
        trace.hints.find? HintName.hasException = some (.bool true)) ∧
    (log.rootDiscarded → (∀ x ∈ log.left, x.op.hasException → x.id ∈ log.taken) →
      (s.exit id).2.dispatcher = s.dispatcher) := by
  have kept : s.Timely ∧ ∀ r, s.recorder? id = some r → r.Followed (traceLog id history) := by
    refine run.book_invariant
      (R := fun log s => s.Timely ∧ ∀ r, s.recorder? id = some r → r.Followed log)
      (noteTrace id) {} ⟨timely_build built, ?_⟩ ?_
    · intro r known
      rw [recorder?_build built] at known
      cases known
    · intro log s call ⟨timely, follows⟩ unmeddled
      constructor
      · exact timely.step call
      · exact fun r known => followed_step timely follows unmeddled known
  obtain ⟨timely, follows⟩ := kept
  have followed := follows r known
  obtain ⟨info, completed, answered, answer, -⟩ := exit_root timely known atRoot calm
  rw [traceLog_exit known (Recorder.top_of_exited answered) answer]
  constructor
  · exact dispatched_of_failure timely followed known atRoot answer
  · exact dropped_of_discarded_root timely followed known atRoot answer

/-- A root and two children, each of them discarded; the script runs when the first child is
left. -/
def discarding (script : List Action) : List Call :=
  [.newContext, .enter 1 { kind := "http", label := "root" }, .discard 1 1,
    .enter 1 { kind := "db", label := "query" }, .act 1 (.defer script), .exit 1, .discard 1 2,
    .enter 1 { kind := "db", label := "again" }, .exit 1, .discard 1 3]

/-- With a failing script the trace is dispatched, with an empty one it is not. -/
theorem failing_script_outlasts_discards :
    ∃ first, build Setup.plain = .done (.ok first) ∧
      (∀ script ∈ [[.fail "broken"], []],
        (∀ m ∈ moments step first (discarding script), Unmeddled 1 m) ∧
        (∃ r, (after step first (discarding script)).recorder? 1 = some r ∧ r.atRoot) ∧
        ((after step first (discarding script)).exit 1).1.isDone) ∧
      (∃ trace, ((after step first (discarding [.fail "broken"])).exit 1).2.dispatcher =
          ((after step first (discarding [.fail "broken"])).dispatcher.dispatch trace).2 ∧
        trace.hints.find? HintName.hasException = some (.bool true)) ∧
      ((after step first (discarding [])).exit 1).2.dispatcher =
        (after step first (discarding [])).dispatcher := by
  have ran : ∃ first, build Setup.plain = .done (.ok first) ∧
      (∀ script ∈ [[.fail "broken"], []],
        (∀ m ∈ moments step first (discarding script), Unmeddled 1 m) ∧
        ((after step first (discarding script)).recorder? 1).any Recorder.atRoot ∧
        ((after step first (discarding script)).exit 1).1.isDone) ∧
      (after step first (discarding [.fail "broken"])).ignoredApplications = [] ∧
      (traceLog 1 (moments step first (discarding [.fail "broken"]) ++
        [.at step (after step first (discarding [.fail "broken"])) (.exit 1)])).left.any
          (·.op.hasException) ∧
      let log := traceLog 1 (moments step first (discarding []) ++
        [.at step (after step first (discarding [])) (.exit 1)])
      log.rootDiscarded ∧ ∀ x ∈ log.left, x.op.hasException → x.id ∈ log.taken :=
    ⟨_, rfl, by decide +kernel, by decide +kernel, by decide +kernel, by decide +kernel⟩
  obtain ⟨first, built, ready, none, failed, discarded, gone⟩ := ran
  have known (script) (member : script ∈ [[.fail "broken"], []]) :=
    Option.any_eq_true _ _ |>.mp (ready script member).2.1
  refine ⟨first, built, fun script member => ⟨(ready script member).1, known script member,
    (ready script member).2.2⟩, ?_, ?_⟩
  · obtain ⟨unmeddled, -, calm⟩ := ready [.fail "broken"] (.head _)
    obtain ⟨r, known, atRoot⟩ := known [.fail "broken"] (.head _)
    have delivered := (failures_outlast_discards built (.of_moments unmeddled) known atRoot calm).1
    obtain ⟨trace, dispatched, -, -, told⟩ :=
      delivered (List.any_eq_true.mp failed) (by simp [none])
    exact ⟨trace, dispatched, told⟩
  · obtain ⟨unmeddled, -, calm⟩ := ready [] (.tail _ (.head _))
    obtain ⟨r, known, atRoot⟩ := known [] (.tail _ (.head _))
    exact (failures_outlast_discards built (.of_moments unmeddled) known atRoot calm).2
      discarded gone

end

end Service
end SpanCapture
