import SpanCapture.Proofs.Collection.Calls
import SpanCapture.Proofs.Service.Recorders

/-! What a call on a service does to its switchboard. Opening a root decides about its trace,
probes are collected, settings are changed; all other calls leave the board alone, and so does
opening a frame below a root. -/
namespace SpanCapture
namespace Service

/-- Whether a frame was opened at a moment that is the only one of its context. -/
def opensRoot (m : Moment Service Call (Outcome Answer)) : Bool :=
  match m.call, m.answer with
  | .enter id _, .done _ => (m.after.recorder? id).any Recorder.atRoot
  | _, _ => false

/-- All that a call can do to the board; the flag tells whether it opens a root. -/
inductive Boards (s : Service) : Call → Bool → Switchboard → Prop
  | kept {call : Call} : Boards s call false s.board
  | decided {id : Nat} {op : Operation} :
      Boards s (.enter id op) true (s.board.decideRoot endpointStrategy).2
  | collected {id : Nat} {probe : Probe} :
      Boards s (.probe id probe) false
        (s.board.collect (localProbe (((s.recorder? id).map (·.hints)).getD []) probe)).2
  | changed (change : Switchboard → Switchboard) : Boards s (.settings change) false (change s.board)

/-- What changes settings and strategies is an allowed call on the board. -/
def Call.Asks (allowed : Switchboard.Call → Prop) : Call → Prop
  | .settings f => ∃ call, allowed call ∧ ∀ board, f board = (Switchboard.step board call).2
  | _ => True

section
variable {s : Service} {id : Nat} {r : Recorder} {op : Operation}

theorem board_finish (completed : CompletedTrace) (s : Service) :
    (s.finish completed).2.board = s.board := by
  unfold finish
  dsimp only
  split <;> rfl

theorem board_withRecorder {β : Type} (id : Nat) (default : β) (f : Recorder → β × Recorder)
    (s : Service) : (s.withRecorder id default f).2.board = s.board := by
  unfold withRecorder
  split <;> rfl

theorem board_exit (id : Nat) (s : Service) : (s.exit id).2.board = s.board := by
  cases known : s.recorder? id with
  | none => rw [exit_unknown known]
  | some r =>
      have left := exits known
      generalize s.exit id = result at left
      cases left with
      | root => exact board_finish _ _
      | _ => rfl

theorem board_act (id : Nat) (action : Action) (s : Service) :
    (s.act id action).2.board = s.board := by
  unfold act
  split <;> rfl

theorem board_visit (now id : Nat) (r : Recorder) (s : Service) :
    (s.visit now id r).2.board = s.board := by
  have visited := visits now id r s
  generalize s.visit now id r = result at visited
  cases visited with
  | unwound => exact board_finish _ _
  | _ => rfl

theorem board_sweepThrough (now : Nat) (held : List Nat) (report : SweepReport)
    (rest : List (Nat × Recorder)) (s : Service) :
    (sweepThrough now held report rest s).2.board = s.board := by
  induction rest generalizing s report with
  | nil => rfl
  | cons entry rest ih =>
      obtain ⟨id, r⟩ := entry
      have visited := board_visit now id r s
      unfold sweepThrough
      dsimp only
      split
      · exact ih _ s
      · split
        · rename_i message s' crashed
          rwa [crashed] at visited
        · rename_i unwound s' done
          rw [done] at visited
          exact (ih _ s').trans visited

/-- Opening a root decides about it, and downgrades its recorder if so. -/
theorem enter_root (known : s.recorder? id = some r) (opened : (r.enter s.clock op).1.isDone)
    (root : (r.enter s.clock op).2.atRoot) :
    (s.enter id op).2.board = (s.board.decideRoot endpointStrategy).2 ∧
      (s.enter id op).2.recorder? id = some (if (s.board.decideRoot endpointStrategy).1 then
        downgraded (r.enter s.clock op).2 else (r.enter s.clock op).2) := by
  have here := recorder?_record known (.enter op)
  have entered : s.enter id op = ((r.enter s.clock op).1,
      (s.record id r (.enter op)).decideRoot id (r.enter s.clock op).2) := by
    simp only [enter, known, opened, root, Bool.and_self, if_true]
    rfl
  rw [entered]
  unfold decideRoot
  dsimp only
  split
  · rename_i down
    refine ⟨rfl, ?_⟩
    rw [if_pos (show (s.board.decideRoot endpointStrategy).1 = true from down)]
    exact recorder?_setRecorder_self
      (s := (s.record id r (.enter op)).withBoard (s.board.decideRoot endpointStrategy).2) here _
  · rename_i spared
    refine ⟨rfl, ?_⟩
    rw [if_neg (show ¬(s.board.decideRoot endpointStrategy).1 = true from spared)]
    exact here

/-- A frame below a root, or one that was lost, decides nothing. -/
theorem enter_inner (known : s.recorder? id = some r)
    (inner : ((r.enter s.clock op).1.isDone && (r.enter s.clock op).2.atRoot) = false) :
    s.enter id op = ((r.enter s.clock op).1, s.record id r (.enter op)) := by
  simp only [enter, known, inner, Bool.false_eq_true, if_false]
  rfl

/-- Whether a frame opens a root can be seen on the recorder of its context. -/
theorem opensRoot_enter (known : s.recorder? id = some r) (op : Operation) :
    opensRoot (.at step s (.enter id op)) =
      ((r.enter s.clock op).1.isDone && (r.enter s.clock op).2.atRoot) := by
  obtain ⟨same, left⟩ := recorder?_enter known op
  have answer : (step s (.enter id op)).1 = (r.enter s.clock op).1.map .entered :=
    congrArg (Outcome.map Answer.entered) same
  have root : ((step s (.enter id op)).2.recorder? id).any Recorder.atRoot =
      (r.enter s.clock op).2.atRoot := by
    change ((s.enter id op).2.recorder? id).any Recorder.atRoot = _
    rcases left with plain | down
    · rw [plain]
      rfl
    · rw [down]
      rfl
  simp only [opensRoot, Moment.at, answer]
  cases (r.enter s.clock op).1 with
  | crashed => rfl
  | done => exact root

theorem opensRoot_unknown (unknown : s.recorder? id = none) (op : Operation) :
    opensRoot (.at step s (.enter id op)) = false := by
  simp [opensRoot, Moment.at, step, enter_unknown unknown, unknown, Outcome.map]

theorem Boards.of_same {call : Call} {board : Switchboard} (same : board = s.board) :
    Boards s call false board := same ▸ .kept

theorem boards (s : Service) (call : Call) :
    Boards s call (opensRoot (.at step s call)) (step s call).2.board := by
  cases call with
  | enter id op =>
      change Boards s _ _ (s.enter id op).2.board
      cases known : s.recorder? id with
      | none =>
          rw [opensRoot_unknown known, enter_unknown known]
          exact .kept
      | some r =>
          rw [opensRoot_enter known]
          cases root : (r.enter s.clock op).1.isDone && (r.enter s.clock op).2.atRoot with
          | true =>
              obtain ⟨opened, alone⟩ := Bool.and_eq_true_iff.mp root
              rw [(enter_root known opened alone).1]
              exact .decided
          | false =>
              rw [enter_inner known root]
              exact .kept
  | exit id => exact .of_same (board_exit id s)
  | discard id frame => exact .of_same (board_withRecorder id false (·.discard frame) s)
  | dump id => exact .of_same (board_withRecorder id false Recorder.dump s)
  | setHint id key value => exact .of_same (board_withRecorder id () _ s)
  | setHintObject id key object => exact .of_same (board_withRecorder id () _ s)
  | setHintAtRoot id key value =>
      exact .of_same (board_withRecorder id false (·.setHintAtRoot key value) s)
  | change id f => exact .of_same (board_withRecorder id () _ s)
  | act id action => exact .of_same (board_act id action s)
  | sweep now held => exact .of_same (board_sweepThrough now held {} s.contexts.entries s)
  | probe id probe => exact .collected
  | settings change => exact .changed change
  | newContext => exact .kept
  | dropContext id => exact .kept
  | wait nanos => exact .kept
  | register receiver => exact .kept
  | unregister handle => exact .kept
  | clear handle => exact .kept

/-- What calls on the board keep, calls on the service keep of its board. -/
theorem board_step {P : Switchboard → Prop} {allowed : Switchboard.Call → Prop}
    (keeps : ∀ board asked, P board → allowed asked → P (Switchboard.step board asked).2)
    (decides : allowed (.decideRoot endpointStrategy)) (collects : ∀ probe, allowed (.collect probe))
    {call : Call} (asks : call.Asks allowed) (h : P s.board) : P (step s call).2.board := by
  have result := boards s call
  generalize opensRoot (.at step s call) = root at result
  generalize (step s call).2.board = board at result
  cases result with
  | kept => exact h
  | decided => exact keeps _ _ h decides
  | collected => exact keeps _ _ h (collects _)
  | changed change =>
      obtain ⟨asked, allows, same⟩ := asks
      rw [same]
      exact keeps _ _ h allows

theorem board_after {P : Switchboard → Prop} {allowed : Switchboard.Call → Prop}
    (keeps : ∀ board asked, P board → allowed asked → P (Switchboard.step board asked).2)
    (decides : allowed (.decideRoot endpointStrategy)) (collects : ∀ probe, allowed (.collect probe))
    {calls : List Call} (asks : ∀ call ∈ calls, call.Asks allowed) (h : P s.board) :
    P (after step s calls).board :=
  after_invariant (P := fun s : Service => P s.board) h
    (fun _ _ h asks => board_step keeps decides collects asks h) asks

theorem board_build {setup : Setup} (built : Service.build setup = .done (.ok s)) :
    ∃ config, s.board = buildBoard config setup.strategies setup.board := by
  unfold build at built
  split at built
  · cases built
  · rename_i config valid
    dsimp only at built
    cases created : Dispatcher.create config.bufferCapacity with
    | crashed message =>
        rw [created] at built
        cases built
    | done dispatcher =>
        rw [created] at built
        cases built
        exact ⟨config, rfl⟩

end

end Service
end SpanCapture
