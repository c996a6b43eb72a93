import SpanCapture.Proofs.Collection.Enforcement
import SpanCapture.Proofs.Recorder.Course
import SpanCapture.Proofs.Service.DowngradeShare
import SpanCapture.Proofs.Service.Failures

/-! Downgraded traces. The decision about a root is kept as a hint of its trace, and the hint is
there as long as the root is open, whatever is called meanwhile; but it is the strategy on the board
that acts on it. So a probe of a downgraded trace that is no endpoint is rejected as long as the
settings ask for some percentage, and judged like any other as soon as they do not. -/
namespace SpanCapture
namespace Recorder

/-- The trace in progress, if there is one, is downgraded. -/
def Marked (r : Recorder) : Prop := r.isBuilding → r.hints.flag HintName.onlyEndpoints = true

section
variable {clock : Clock} {op : Operation} {r r' : Recorder}

theorem Marked.of_gathered (h : r.Marked)
    (kept : r'.isBuilding → r.isBuilding ∧ r'.gathered = r.gathered) : r'.Marked := by
  intro building
  obtain ⟨before, same⟩ := kept building
  rw [show r'.hints = r.hints from congrArg Prod.snd same]
  exact h before

theorem Marked.insertHint (h : r.Marked) {key : String} (other : key ≠ HintName.onlyEndpoints)
    (hint : Hint) : Marked { r with hints := r.hints.insert key hint } := by
  intro building
  change Hints.flag _ (r.hints.insert key hint) = true
  unfold Hints.flag Hints.value?
  rw [Keyed.find?_insert_of_ne hint other.symm]
  exact h building

theorem Marked.setHintAtRoot (h : r.Marked) {key : String} (other : key ≠ HintName.onlyEndpoints)
    (value : Value) : (r.setHintAtRoot key value).2.Marked := by
  unfold Recorder.setHintAtRoot
  split
  · exact h.insertHint other _
  · exact h

theorem marked_cleared (r : Recorder) : Marked { r.reset with hints := [] } := nofun

theorem marked_downgraded (r : Recorder) : (Service.downgraded r).Marked := fun _ =>
  (Hints.flag_set_of_ne _ (by decide) _).trans (Hints.flag_set_self _ _ _)

theorem Marked.exit (h : r.Marked) (clock : Clock) : (r.exit clock).2.1.Marked :=
  h.of_gathered gathered_exit

theorem Marked.discard (h : r.Marked) (frame : Nat) : (r.discard frame).2.Marked := by
  have building := isBuilding_discard frame r
  have discarded := discards frame r
  generalize r.discard frame = result at discarded building
  cases discarded with
  | refused => exact h
  | root => exact h.insertHint (by decide) _
  | closed => exact h.of_gathered fun goes => ⟨building ▸ goes, rfl⟩

theorem Marked.withOperation (h : r.Marked) (f : Operation → Operation) :
    (r.withOperation f).Marked := by
  have building := isBuilding_withOperation f r
  have changed := changes f r
  generalize r.withOperation f = r' at changed building
  cases changed with
  | idle => exact h
  | top => exact h.of_gathered fun goes => ⟨building ▸ goes, rfl⟩

theorem Marked.markOverdue (h : r.Marked) : r.markOverdue.Marked := by
  have overdue := h.insertHint (show HintName.overdue ≠ _ by decide) (.value (.bool true))
  have dropped := overdue.insertHint (show HintName.discard ≠ _ by decide) (.value (.bool true))
  exact dropped.of_gathered fun building => ⟨isBuilding_markOverdue r ▸ building, rfl⟩

theorem Marked.unwind (h : r.Marked) (maxAge now : Nat) (clock : Clock) :
    (r.unwind maxAge now clock).2.1.Marked := by
  cases due : r.isDue maxAge now with
  | false =>
      rw [unwind_of_not_due due]
      exact h
  | true =>
      rw [unwind_of_due due]
      exact h.markOverdue.of_gathered (gathered_exitMany _ clock _).1

/-- A frame that opens no root goes into the trace in progress. -/
theorem Marked.enter (h : r.Marked) (inner : ((r.enter clock op).1.isDone &&
    (r.enter clock op).2.atRoot) = false) : (r.enter clock op).2.Marked := by
  have ready : r.ready.Marked := by
    unfold Recorder.ready
    split
    · exact nofun
    · exact h
  cases entered : (r.enter clock op).1 with
  | crashed message =>
      rw [enter_crashed entered]
      exact ready.of_gathered fun building => ⟨building, rfl⟩
  | done number =>
      have done : r.enter clock op = (.done number, (r.enter clock op).2) := Prod.ext entered rfl
      rw [entered, atRoot_enter done] at inner
      have goesOn : r.isBuilding = true ∧ r.isAborted = false := by simpa using inner
      obtain ⟨-, opens⟩ := enter_done done
      rw [goesOn.2, if_neg Bool.false_ne_true] at opens
      intro _
      rcases opens.hints with same | grown
      · rw [same]
        exact h goesOn.1
      · rw [grown, Hints.flag_set_of_ne _ (by decide)]
        exact h goesOn.1

end

end Recorder

namespace Service

section
variable {s : Service} {id : Nat} {r : Recorder} {op : Operation} {call : Call} {calls : List Call}

def MarkedIn (id : Nat) (s : Service) : Prop := ∀ r, s.recorder? id = some r → r.Marked

/-- No other root opens in a context, and nobody writes the hint that its trace is downgraded. -/
def LeavesTrace (id : Nat) (m : Moment Service Call (Outcome Answer)) : Prop :=
  (opensRoot m = true → m.call.target? ≠ some id) ∧
    m.call.hint? ≠ some (id, HintName.onlyEndpoints)

theorem MarkedIn.of_same (h : s.MarkedIn id) {s' : Service}
    (same : s'.recorder? id = s.recorder? id) : s'.MarkedIn id := fun r known =>
  h r (same.symm.trans known)

theorem markedIn_of_known {s' : Service} (known : s'.recorder? id = some r) (marked : r.Marked) :
    s'.MarkedIn id := by
  intro r' known'
  rw [known] at known'
  cases known'
  exact marked

theorem MarkedIn.withRecorder (h : s.MarkedIn id) {β : Type} (default : β)
    {f : Recorder → β × Recorder} (keeps : ∀ r, r.Marked → (f r).2.Marked) :
    (s.withRecorder id default f).2.MarkedIn id := by
  cases known : s.recorder? id with
  | none =>
      rw [withRecorder_unknown known]
      exact h
  | some r =>
      rw [withRecorder_known known]
      exact markedIn_of_known (recorder?_setRecorder_self known _) (keeps r (h r known))

theorem MarkedIn.enter (h : s.MarkedIn id)
    (inner : opensRoot (.at step s (.enter id op)) = false) : (s.enter id op).2.MarkedIn id := by
  cases known : s.recorder? id with
  | none =>
      rw [enter_unknown known]
      exact h
  | some r =>
      rw [opensRoot_enter known] at inner
      rw [enter_inner known inner]
      exact markedIn_of_known (recorder?_record known (.enter op)) ((h r known).enter inner)

theorem MarkedIn.exit (h : s.MarkedIn id) : (s.exit id).2.MarkedIn id := by
  cases known : s.recorder? id with
  | none =>
      rw [exit_unknown known]
      exact h
  | some r => exact markedIn_of_known (recorder?_exit known) ((h r known).exit s.clock)

theorem MarkedIn.act (h : s.MarkedIn id) (action : Action) : (s.act id action).2.MarkedIn id := by
  cases known : s.recorder? id with
  | none =>
      rw [act_unknown known]
      exact h
  | some r =>
      refine markedIn_of_known (recorder?_act known action) ?_
      rw [Recorder.act_eq_withOperation]
      exact (h r known).withOperation _

theorem MarkedIn.visit (h : s.MarkedIn id) {other : Nat} (known : s.recorder? other = some r)
    (now : Nat) : (s.visit now other r).2.MarkedIn id := by
  by_cases here : id = other
  · subst here
    exact markedIn_of_known (recorder?_visit_self known now) ((h r known).unwind s.maxAge now s.clock)
  · exact h.of_same (recorder?_visit_of_ne here now r s)

/-- Calls on the context of a downgraded trace leave it downgraded. -/
theorem MarkedIn.step_target (h : s.MarkedIn id) (here : call.target? = some id)
    (leaves : LeavesTrace id (.at step s call)) : (step s call).2.MarkedIn id := by
  obtain ⟨inner, unwritten⟩ := leaves
  cases call with
  | dropContext target =>
      cases here
      intro r known
      change (s.dropContext id).recorder? id = _ at known
      rw [recorder?_dropContext] at known
      cases known
  | enter target op =>
      cases here
      exact h.enter (Bool.eq_false_iff.mpr fun root => inner root rfl)
  | exit target =>
      cases here
      exact h.exit
  | discard target frame =>
      cases here
      exact h.withRecorder false fun r marked => marked.discard frame
  | dump target =>
      cases here
      exact h.withRecorder (f := Recorder.dump) false fun r _ => r.marked_cleared
  | setHint target key value =>
      cases here
      exact h.withRecorder () fun r marked => marked.insertHint (fun same => unwritten (same ▸ rfl)) _
  | setHintObject target key object =>
      cases here
      exact h.withRecorder () fun r marked => marked.insertHint (fun same => unwritten (same ▸ rfl)) _
  | setHintAtRoot target key value =>
      cases here
      exact h.withRecorder false fun r marked =>
        marked.setHintAtRoot (fun same => unwritten (same ▸ rfl)) value
  | change target f =>
      cases here
      exact h.withRecorder () fun r marked => marked.withOperation f
  | act target action =>
      cases here
      exact h.act action
  | _ => cases here

/-- Whatever is called that leaves a downgraded trace alone, it stays downgraded. -/
theorem MarkedIn.step (h : s.MarkedIn id) (sound : s.Sound)
    (leaves : LeavesTrace id (.at step s call)) : (Service.step s call).2.MarkedIn id := by
  by_cases here : call.target? = some id
  · exact h.step_target here leaves
  · cases known : s.recorder? id with
    | none =>
        intro r known' building
        obtain ⟨-, idle, -⟩ := recorder?_step_unknown sound known known'
        rw [Recorder.isBuilding, idle] at building
        cases building
    | some r =>
        by_cases awake : ∀ now held, call ≠ .sweep now held
        · have old : call = .newContext → id ≠ s.nextContext := fun _ =>
            Nat.ne_of_lt (sound.numbered id (mem_keys known))
          exact h.of_same (recorder?_step_of_ne sound here awake old)
        · obtain ⟨now, held, rfl⟩ : ∃ now held, call = .sweep now held := by simpa using awake
          exact sweep_keeps (P := MarkedIn id) (fun _ _ _ _ known marked => marked.visit known now)
            sound.table held h

theorem MarkedIn.after (h : s.MarkedIn id) (sound : s.Sound)
    (leaves : ∀ m ∈ moments Service.step s calls, LeavesTrace id m) :
    (after Service.step s calls).MarkedIn id := by
  have kept := (Run.of_moments leaves).invariant
    (P := fun s : Service => s.MarkedIn id ∧ s.Sound) ⟨h, sound⟩
    fun _ call h leaves => ⟨h.1.step h.2 leaves, h.2.step call⟩
  exact kept.1

theorem Sound.after (h : s.Sound) : (after Service.step s calls).Sound :=
  after_invariant h (fun _ call h _ => h.step call) fun _ _ => trivial

/-- A root that is decided to be downgraded is. -/
theorem markedIn_decided (down : decision? (.at step s (.enter id op)) = some true) :
    (step s (.enter id op)).2.MarkedIn id := by
  obtain ⟨r, -, known⟩ := recorder?_decided down
  rw [if_pos rfl] at known
  exact markedIn_of_known known (Recorder.marked_downgraded _)

/-- Of a trace whose root was decided to be downgraded, while it is in progress and only the
strategies at hand judge. Calls may come in between on anything, settings included, as long as nobody
overwrites the hint. A probe of the trace that is no endpoint is marked; it is rejected if the
settings ask for some percentage once the chain has seen it, and if they do not it is judged as in a
trace that is not downgraded. -/
theorem downgraded_trace_enforced {setup : Setup} {early : List Switchboard.Call} {first : Service}
    (before : ∀ call ∈ early, call.OnSettings)
    (shared : setup.board = after Switchboard.step {} early) (bundled : setup.strategies = [])
    (built : build setup = .done (.ok first)) {earlier later : List Call}
    (asks : ∀ call ∈ earlier ++ .enter id op :: later, call.Asks Switchboard.Call.Usual)
    (down : decision? (.at step (after step first earlier) (.enter id op)) = some true)
    (leaves : ∀ m ∈ moments step (step (after step first earlier) (.enter id op)).2 later,
      LeavesTrace id m) :
    let last := after step first (earlier ++ .enter id op :: later)
    ∀ r, last.recorder? id = some r → r.isBuilding → ∀ probe : Probe, probe.isEndpoint = false →
      let judged := localProbe r.hints probe
      let shown := (last.board.observeAll judged last.board.registered).settings
      judged.endpointOnly = true ∧
      (0 < Strategy.ratioSetting shown → (last.shouldCollect id probe).1.1 = false) ∧
      (¬0 < Strategy.ratioSetting shown → (last.shouldCollect id probe).1.1 =
        (last.board.collect { judged with endpointOnly := false }).1) := by
  intro last r known building probe plain judged shown
  have standing : last.board.Enforces [] ∧ last.board.Usual := by
    obtain ⟨config, board⟩ := board_build built
    have bare := Switchboard.bare_after before
    refine board_after (P := fun board => board.Enforces [] ∧ board.Usual)
      (fun _ asked h usual => ⟨h.1.step asked, h.2.step usual⟩) trivial (fun _ => trivial) asks ?_
    rw [board, bundled, shared]
    exact ⟨Switchboard.enforces_build bare config [], Switchboard.usual_build bare config⟩
  have marked : last.MarkedIn id := by
    have sound : (after step first earlier).Sound := (sound_build built).after
    change (after step first (earlier ++ .enter id op :: later)).MarkedIn id
    rw [after_append]
    exact (markedIn_decided down).after (sound.step _) leaves
  have verdict : (last.shouldCollect id probe).1.1 = (last.board.collect judged).1 := by
    rw [shouldCollect, known]
    rfl
  refine ⟨marked r known building, fun asked => ?_, fun unasked => ?_⟩
  · rw [verdict]
    exact standing.1.rejects (marked r known building) plain asked
  · rw [verdict, standing.1.passes standing.2 judged unasked]

def allDowngraded : Setup := { Setup.plain with config := { endpointRatio := 100 } }

def askFor (percent : Nat) : Call :=
  .settings fun board =>
    (Switchboard.step board (.write SettingName.endpointRatio (.ofUnsigned percent))).2

def get : Operation := { kind := "http", label := "GET /" }

def load : Probe := { className := "shop.Dao", methodName := "load" }

instance (id : Nat) : DecidablePred (LeavesTrace id) :=
  fun _ => inferInstanceAs (Decidable ((_ = true → _ ≠ _) ∧ _ ≠ _))

theorem asks_askFor (percent : Nat) : (askFor percent).Asks Switchboard.Call.Usual :=
  ⟨.write SettingName.endpointRatio (.ofUnsigned percent), trivial, fun _ => rfl⟩

/-- The trace goes on, while the settings ask for fewer traces to be downgraded. -/
def goingOn : List Call := [.enter 1 get, askFor 1, .probe 1 load]

theorem load_rejected_while_asked :
    ∃ first r, build allDowngraded = .done (.ok first) ∧
      decision? (.at step (after step first [.newContext]) (.enter 1 get)) = some true ∧
      (∀ m ∈ moments step (step (after step first [.newContext]) (.enter 1 get)).2 goingOn,
        LeavesTrace 1 m) ∧
      (after step first ([.newContext] ++ .enter 1 get :: goingOn)).recorder? 1 = some r ∧
      r.isBuilding ∧ load.isEndpoint = false ∧
      ((after step first ([.newContext] ++ .enter 1 get :: goingOn)).shouldCollect 1 load).1.1 =
        false := by
  have ran : ∃ first, build allDowngraded = .done (.ok first) ∧
      decision? (.at step (after step first [.newContext]) (.enter 1 get)) = some true ∧
      (∀ m ∈ moments step (step (after step first [.newContext]) (.enter 1 get)).2 goingOn,
        LeavesTrace 1 m) ∧
      let last := after step first ([.newContext] ++ .enter 1 get :: goingOn)
      (last.recorder? 1).any fun r => r.isBuilding && decide (0 < Strategy.ratioSetting
        (last.board.observeAll (localProbe r.hints load) last.board.registered).settings) :=
    ⟨_, rfl, by decide +kernel, by decide +kernel, by decide +kernel⟩
  obtain ⟨first, built, down, leaves, asked⟩ := ran
  obtain ⟨r, known, facts⟩ := Option.any_eq_true _ _ |>.mp asked
  obtain ⟨building, positive⟩ := Bool.and_eq_true_iff.mp facts
  have asks : ∀ call ∈ [.newContext] ++ .enter 1 get :: goingOn, call.Asks Switchboard.Call.Usual := by
    simp only [goingOn, List.forall_mem_append, List.forall_mem_cons]
    exact ⟨⟨trivial, List.forall_mem_nil _⟩, trivial, trivial, asks_askFor 1, trivial,
      List.forall_mem_nil _⟩
  have shared : allDowngraded.board = after Switchboard.step {} [] := rfl
  have enforced := downgraded_trace_enforced (List.forall_mem_nil _) shared rfl built asks down leaves
    r known building load rfl
  exact ⟨first, r, built, down, leaves, known, building, rfl,
    enforced.2.1 (of_decide_eq_true positive)⟩

/-- A trace is in progress and downgraded; the settings ask for none, and its probe is collected. -/
theorem load_collected_once_unasked :
    ∃ first, build allDowngraded = .done (.ok first) ∧
      decision? (.at step (after step first [.newContext]) (.enter 1 get)) = some true ∧
      (∀ m ∈ moments step (step (after step first [.newContext]) (.enter 1 get)).2 [askFor 0],
        LeavesTrace 1 m) ∧
      let last := after step first ([.newContext] ++ .enter 1 get :: [askFor 0])
      ((last.recorder? 1).any fun r => r.isBuilding && r.hints.flag HintName.onlyEndpoints) ∧
        load.isEndpoint = false ∧ (last.shouldCollect 1 load).1.1 = true :=
  ⟨_, rfl, by decide +kernel, by decide +kernel, by decide +kernel, rfl, by decide +kernel⟩

end

end Service
end SpanCapture
