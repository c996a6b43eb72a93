import SpanCapture.Proofs.Collection.Seats
import SpanCapture.Proofs.Collection.Verdict

/-! When an aspect is switched off for its failures. The ledger counts the failures of an aspect
since it was last enabled, whatever becomes of its switch meanwhile; a failure switches the aspect
off exactly if the switch is on and the count has reached the threshold. As long as the switch goes
on only by enabling the aspect, these are the failures since it went on. A switch that was written
by hand goes on with the old count. -/
namespace SpanCapture
namespace AspectLedger

variable {aspect other : String}

theorem count_countFailure_of_ne (differs : other ≠ aspect) (ledger : AspectLedger) :
    (ledger.countFailure aspect).count other = ledger.count other := by
  simp [count, countFailure, Keyed.find?_insert_of_ne _ differs]

theorem count_forget_of_ne (differs : other ≠ aspect) (ledger : AspectLedger) :
    (ledger.forget aspect).count other = ledger.count other := by
  simp [count, forget, Keyed.find?_erase_of_ne differs]

end AspectLedger

namespace Switchboard

def switchOn (aspect : String) (board : Switchboard) : Bool :=
  (board.settings.getBool? (SettingName.aspectEnabled aspect)).getD true

def fails (number : Nat) (aspect : String) (m : Moment Switchboard Call Answer) : Bool :=
  match m.call with
  | .recordFailure other failed _ _ => other == number && failed == aspect
  | _ => false

def enables (number : Nat) (aspect : String) (m : Moment Switchboard Call Answer) : Bool :=
  match m.call with
  | .enableAspect other enabled => other == number && enabled == aspect
  | _ => false

def turnsOn (aspect : String) (m : Moment Switchboard Call Answer) : Bool :=
  !m.before.switchOn aspect && m.after.switchOn aspect

/-- The moments since the last of some kind, newest first; all of them if there is none. -/
def since (kind : Moment Switchboard Call Answer → Bool)
    (history : List (Moment Switchboard Call Answer)) : List (Moment Switchboard Call Answer) :=
  history.reverse.takeWhile fun m => !kind m

/-- How many failures of an aspect were recorded since the last moment of some kind. -/
def failuresSince (number : Nat) (aspect : String) (kind : Moment Switchboard Call Answer → Bool)
    (history : List (Moment Switchboard Call Answer)) : Nat :=
  (since kind history).countP (fails number aspect)

section
variable {kind other : Moment Switchboard Call Answer → Bool} {number : Nat} {aspect : String}
  {history : List (Moment Switchboard Call Answer)} {m : Moment Switchboard Call Answer}

theorem failuresSince_append (number : Nat) (aspect : String)
    (kind : Moment Switchboard Call Answer → Bool)
    (history : List (Moment Switchboard Call Answer)) (m : Moment Switchboard Call Answer) :
    failuresSince number aspect kind (history ++ [m]) =
      if kind m then 0
      else failuresSince number aspect kind history + if fails number aspect m then 1 else 0 := by
  unfold failuresSince since
  rw [List.reverse_append, List.reverse_singleton, List.singleton_append]
  cases here : kind m with
  | true =>
      rw [List.takeWhile_cons_of_neg (by simp [here])]
      rfl
  | false =>
      rw [List.takeWhile_cons_of_pos (by simp [here]), List.countP_cons]
      rfl

/-- Where nothing of another kind happened since the last moment of one kind, that lies no further
back than the last of the other. -/
theorem failuresSince_le (none : ∀ m ∈ since kind history, other m = false) :
    failuresSince number aspect kind history ≤ failuresSince number aspect other history := by
  unfold failuresSince since at *
  refine List.Sublist.countP_le ?_
  generalize history.reverse = moments at none ⊢
  induction moments with
  | nil => exact .slnil
  | cons m earlier ih =>
      cases here : kind m with
      | true =>
          rw [List.takeWhile_cons_of_neg (by simp [here])]
          exact List.nil_sublist _
      | false =>
          rw [List.takeWhile_cons_of_pos (by simp [here])] at none ⊢
          obtain ⟨now, before⟩ := List.forall_mem_cons.mp none
          rw [List.takeWhile_cons_of_pos (by simp [now])]
          exact (ih before).cons_cons m

end

section
variable {board : Switchboard} {number threshold count : Nat} {aspect plugin reason : String}
  {ledger : AspectLedger}

theorem ledger?_iff :
    board.ledger? number = some ledger ↔ board.Seats number (.aspects ledger) := by
  unfold ledger? Seats
  split
  · rename_i known
    rw [known]
    simp
  · rename_i other
    refine ⟨nofun, fun known => absurd known (other ledger)⟩

/-- What is said of aspects is noted in their ledger. -/
theorem withLedger_eq (h : board.Seats number (.aspects ledger))
    (change : AspectLedger → AspectLedger) :
    board.withLedger number change = board.replace number (.aspects (change ledger)) := by
  rw [withLedger, ledger?_iff.mpr h]

theorem Seats.noted (h : board.Seats number (.aspects ledger))
    (change : AspectLedger → AspectLedger) :
    (board.withLedger number change).Seats number (.aspects (change ledger)) := by
  rw [withLedger_eq h]
  exact seats_replace_self (by rw [show board.strategies[number]? = _ from h]; rfl) _

/-- A failure switches its aspect off if the switch is on and the count reaches the threshold. -/
theorem recordFailure_eq (h : board.Seats number (.aspects ledger)) (aspect plugin reason : String) :
    let counted := board.withLedger number (·.countFailure aspect)
    board.recordFailure number aspect plugin reason =
      if board.switchOn aspect && ledger.threshold ≤ ledger.count aspect + 1 then
        (true, counted.disableAspect number aspect plugin reason)
      else (false, counted) := by
  have settings : (board.withLedger number (·.countFailure aspect)).settings = board.settings := by
    rw [withLedger_eq h]
    rfl
  rw [recordFailure]
  dsimp only
  rw [ledger?_iff.mpr (h.noted (·.countFailure aspect)), settings]
  dsimp only
  rw [AspectLedger.threshold_countFailure, AspectLedger.count_countFailure_self]
  rfl

/-- The strategy of a number manages aspects: with this threshold, and with so many failures of one
aspect counted. -/
def Counts (board : Switchboard) (number : Nat) (aspect : String) (threshold count : Nat) : Prop :=
  ∃ ledger, board.Seats number (.aspects ledger) ∧ ledger.threshold = threshold ∧
    ledger.count aspect = count

theorem Counts.disableAspect (h : board.Counts number aspect threshold count)
    (disabled plugin reason : String) :
    (board.disableAspect number disabled plugin reason).Counts number aspect threshold count := by
  obtain ⟨ledger, seats, bound, counted⟩ := h
  exact ⟨_, (seats.noted (·.addReason disabled plugin reason)).serveAll _, bound, counted⟩

/-- A recorded failure is counted, whether or not it switches the aspect off. -/
theorem Counts.recordFailure (h : board.Counts number aspect threshold count)
    (failed plugin reason : String) :
    (board.recordFailure number failed plugin reason).2.Counts number aspect threshold
      (count + if failed == aspect then 1 else 0) := by
  obtain ⟨ledger, seats, bound, counted⟩ := h
  have noted : (board.withLedger number (·.countFailure failed)).Counts number aspect threshold
      (count + if failed == aspect then 1 else 0) := by
    refine ⟨_, seats.noted (·.countFailure failed), bound, ?_⟩
    by_cases same : failed = aspect
    · subst same
      rw [AspectLedger.count_countFailure_self, counted, beq_self_eq_true, if_pos rfl]
    · rw [AspectLedger.count_countFailure_of_ne (Ne.symm same), counted,
        beq_eq_false_iff_ne.mpr same, if_neg Bool.false_ne_true, Nat.add_zero]
  rw [recordFailure_eq seats]
  split
  · exact noted.disableAspect failed plugin reason
  · exact noted

theorem Counts.enableAspect (h : board.Counts number aspect threshold count) (enabled : String) :
    (board.enableAspect number enabled).Counts number aspect threshold
      (if enabled == aspect then 0 else count) := by
  obtain ⟨ledger, seats, bound, counted⟩ := h
  refine ⟨_, (seats.noted (·.forget enabled)).serveAll _, bound, ?_⟩
  by_cases same : enabled = aspect
  · subst same
    rw [AspectLedger.count_forget_self, beq_self_eq_true, if_pos rfl]
  · rw [AspectLedger.count_forget_of_ne (Ne.symm same), counted, beq_eq_false_iff_ne.mpr same,
      if_neg Bool.false_ne_true]

/-- Whatever is asked of the board, the count goes on by failures and is forgotten by enabling. -/
theorem Counts.step (h : board.Counts number aspect threshold count) (call : Call) :
    (step board call).2.Counts number aspect threshold
      (if enables number aspect (.at step board call) then 0
        else count + if fails number aspect (.at step board call) then 1 else 0) := by
  obtain ⟨ledger, seats, bound, counted⟩ := h
  have stays {board' : Switchboard} (still : board'.Seats number (.aspects ledger)) :
      board'.Counts number aspect threshold count := ⟨ledger, still, bound, counted⟩
  cases call with
  | write name value => exact stays (seats.serveAll _)
  | register name value => exact stays (seats.register name value)
  | subscribe listener => exact stays seats
  | dismiss id => exact stays seats
  | add s => exact stays (seats.add s)
  | enlist other => exact stays (seats.congr (strategies_enlist other board))
  | refresh => exact stays seats
  | collect probe => exact stays (seats.collect (by simp) probe)
  | ignoreApplications other applications =>
      exact stays (seats.ignoreApplications (by simp) other applications)
  | disableAspect other disabled plugin reason =>
      by_cases here : other = number
      · subst here
        exact (stays seats).disableAspect disabled plugin reason
      · exact stays (seats.disableAspect (.inl here) disabled plugin reason)
  | enableAspect other enabled =>
      by_cases here : other = number
      · subst here
        have forgot := (stays seats).enableAspect enabled
        simpa [enables, fails, Moment.at, Switchboard.step] using forgot
      · have kept := stays (seats.enableAspect (.inl here) enabled)
        simpa [enables, fails, Moment.at, Switchboard.step, here] using kept
  | recordFailure other failed plugin reason =>
      by_cases here : other = number
      · subst here
        have noted := (stays seats).recordFailure failed plugin reason
        simpa [enables, fails, Moment.at, Switchboard.step] using noted
      · have kept := stays (seats.recordFailure (.inl here) failed plugin reason)
        simpa [enables, fails, Moment.at, Switchboard.step, here] using kept
  | decideRoot other => exact stays (seats.decideRoot (.inr (by simp)))

theorem counts_addAspects (board : Switchboard) (threshold : Nat) (aspect : String) :
    (board.addAspects threshold).2.Counts (board.addAspects threshold).1 aspect (max threshold 1) 0 :=
  ⟨_, List.getElem?_concat_length, rfl, rfl⟩

theorem counts_after {history : List (Moment Switchboard Call Answer)} {last : Switchboard}
    (run : Run step (fun _ => True) (board.addAspects threshold).2 history last) (aspect : String) :
    let number := (board.addAspects threshold).1
    last.Counts number aspect (max threshold 1)
      (failuresSince number aspect (enables number aspect) history) := by
  intro number
  induction run with
  | start => exact counts_addAspects board threshold aspect
  | @next history s call before _ ih =>
      rw [failuresSince_append]
      exact ih.step call

/-- A strategy for aspects switches one off only if it is on and has failed as often as the
threshold says since it was last enabled. Unless its switch was put on otherwise since then, it has
failed as often since the switch went on. Where no listener asks for anything the aspect is off
afterwards. -/
theorem aspect_fails_to_threshold {history : List (Moment Switchboard Call Answer)}
    {last : Switchboard} (run : Run step (fun _ => True) (board.addAspects threshold).2 history last)
    (aspect plugin reason : String) :
    let number := (board.addAspects threshold).1
    let m := Moment.at step last (.recordFailure number aspect plugin reason)
    let recorded := last.recordFailure number aspect plugin reason
    recorded.1 = true →
      (last.switchOn aspect = true ∧
        max threshold 1 ≤ failuresSince number aspect (enables number aspect) (history ++ [m])) ∧
      ((∀ earlier ∈ since (enables number aspect) history, turnsOn aspect earlier = false) →
        max threshold 1 ≤ failuresSince number aspect (turnsOn aspect) (history ++ [m])) ∧
      (last.Quiet → recorded.2.switchOn aspect = false) := by
  intro number m recorded disabled
  obtain ⟨ledger, seats, bound, counted⟩ := counts_after run aspect
  have result := recordFailure_eq seats aspect plugin reason
  have due : (last.switchOn aspect && ledger.threshold ≤ ledger.count aspect + 1) = true := by
    refine Decidable.byContradiction fun spared => ?_
    have nothing := congrArg Prod.fst result
    rw [if_neg spared] at nothing
    cases nothing.symm.trans disabled
  obtain ⟨on, reached⟩ := Bool.and_eq_true_iff.mp due
  have failed : fails number aspect m = true := by simp [fails, m, Moment.at]
  have enough : max threshold 1 ≤
      failuresSince number aspect (enables number aspect) history + 1 := by
    rw [← bound, ← counted]
    exact of_decide_eq_true reached
  refine ⟨⟨on, ?_⟩, fun none => ?_, fun quiet => ?_⟩
  · have kept : enables number aspect m = false := rfl
    rw [failuresSince_append, kept, failed]
    exact enough
  · have kept : turnsOn aspect m = false := by
      have before : m.before.switchOn aspect = true := on
      rw [turnsOn, before, Bool.not_true, Bool.false_and]
    rw [failuresSince_append, kept, failed]
    exact Nat.le_trans enough (Nat.succ_le_succ (failuresSince_le none))
  · let noted := (last.withLedger number (·.countFailure aspect)).withLedger number
      (·.addReason aspect plugin reason)
    have after : recorded.2 = noted.write (SettingName.aspectEnabled aspect) (.bool false) := by
      have written := congrArg Prod.snd result
      rw [if_pos due] at written
      exact written
    have still : noted.Quiet := by
      have same : noted.subscribers = last.subscribers := by
        change ((last.withLedger number _).withLedger number _).subscribers = _
        rw [withLedger_eq (seats.noted _), withLedger_eq seats]
        rfl
      rw [Quiet, same]
      exact quiet
    rw [switchOn, after, (write_quiet still _ _).1, Settings.getBool?_write_self]
    rfl

/-- Two failures, one more while the aspect is off, and one after it was enabled again. -/
def failingQueries (number : Nat) : List Call :=
  [.recordFailure number "sql" "jdbc" "slow", .recordFailure number "sql" "jdbc" "slow",
    .recordFailure number "sql" "jdbc" "slow", .enableAspect number "sql",
    .recordFailure number "sql" "jdbc" "slow"]

theorem sql_off_at_second_failure :
    let number := (addAspects 2 {}).1
    let history := moments step (addAspects 2 {}).2 (failingQueries number)
    let last := after step (addAspects 2 {}).2 (failingQueries number)
    let m := Moment.at step last (.recordFailure number "sql" "jdbc" "slow")
    let recorded := last.recordFailure number "sql" "jdbc" "slow"
    recorded.1 = true ∧ last.switchOn "sql" = true ∧
      2 ≤ failuresSince number "sql" (turnsOn "sql") (history ++ [m]) ∧
      recorded.2.switchOn "sql" = false := by
  intro number history last m recorded
  have run : Run step (fun _ => True) (addAspects 2 {}).2 history last :=
    .of_moments fun _ _ => trivial
  have disabled : recorded.1 = true := by decide +kernel
  have calm : ∀ earlier ∈ since (enables number "sql") history, turnsOn "sql" earlier = false := by
    decide +kernel
  have nobody : last.subscribers.isEmpty = true := by decide +kernel
  have quiet : last.Quiet := by
    intro id listener member
    rw [List.isEmpty_iff.mp nobody] at member
    cases member
  obtain ⟨⟨on, -⟩, enough, off⟩ := aspect_fails_to_threshold run "sql" "jdbc" "slow" disabled
  exact ⟨disabled, on, enough calm, off quiet⟩

/-- Two failures, and the switch written on again by hand. -/
def switchedQueries (number : Nat) : List Call :=
  [.recordFailure number "sql" "jdbc" "slow", .recordFailure number "sql" "jdbc" "slow",
    .write (SettingName.aspectEnabled "sql") (.bool true)]

/-- The first failure after the switch was written on switches the aspect off again. -/
theorem sql_off_at_first_failure :
    let board := (addAspects 2 {}).2
    let history := moments step board (switchedQueries 0)
    let last := after step board (switchedQueries 0)
    let m := Moment.at step last (.recordFailure 0 "sql" "jdbc" "slow")
    (last.recordFailure 0 "sql" "jdbc" "slow").1 = true ∧
      history.map (turnsOn "sql") = [false, false, true] ∧
      failuresSince 0 "sql" (turnsOn "sql") (history ++ [m]) = 1 := by
  decide +kernel

end

end Switchboard
end SpanCapture
