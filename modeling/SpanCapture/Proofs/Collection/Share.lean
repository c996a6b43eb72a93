import SpanCapture.Proofs.Collection.Seats

/-! The share of roots that are downgraded. At a percentage the verdict on a root depends on its
number modulo a hundred; so the roots downgraded are known from how many came, and of a hundred in a
row they are as many as the percentage says, wherever the row begins. Only deciding about a root
moves the counter on, whatever else is asked of the board. -/
namespace SpanCapture
namespace RatioTracker

/-- How many of the first roots are downgraded at a percentage. -/
def downgradedOf (percent count : Nat) : Nat := count / 100 * percent + min (count % 100) percent

def verdicts (percent first count : Nat) : List Bool :=
  (List.range' first count).map fun number => number % 100 < percent

section
variable {percent : Nat}

theorem downgradedOf_succ (bounded : percent ≤ 100) (count : Nat) :
    downgradedOf percent (count + 1) =
      downgradedOf percent count + if count % 100 < percent then 1 else 0 := by
  unfold downgradedOf
  by_cases last : count % 100 = 99
  · have next : (count + 1) / 100 = count / 100 + 1 := by omega
    have wraps : (count + 1) % 100 = 0 := by omega
    rw [next, wraps, last, Nat.add_mul, Nat.one_mul]
    split <;> omega
  · have same : (count + 1) / 100 = count / 100 := by omega
    have next : (count + 1) % 100 = count % 100 + 1 := by omega
    rw [same, next]
    split <;> omega

theorem downgradedOf_add_hundred (percent count : Nat) :
    downgradedOf percent (count + 100) = downgradedOf percent count + percent := by
  have next : (count + 100) / 100 = count / 100 + 1 := by omega
  have same : (count + 100) % 100 = count % 100 := by omega
  rw [downgradedOf, downgradedOf, next, same, Nat.add_mul, Nat.one_mul]
  omega

theorem verdicts_succ (percent first count : Nat) :
    verdicts percent first (count + 1) =
      (first % 100 < percent : Bool) :: verdicts percent (first + 1) count := by
  rw [verdicts, List.range'_succ, List.map_cons]
  rfl

/-- At nought percent the number of a root does not matter. -/
theorem verdicts_zero (first other count : Nat) : verdicts 0 first count = verdicts 0 other count := by
  have none (first : Nat) : verdicts 0 first count = List.replicate count false := by
    simp [verdicts, List.map_const']
  rw [none, none]

theorem verdicts_next (percent first count : Nat) :
    verdicts percent (first + if percent = 0 then 0 else 1) count =
      verdicts percent (first + 1) count := by
  split
  · rename_i none
    rw [none]
    exact verdicts_zero _ _ count
  · rfl

theorem take_verdicts {count length : Nat} (inside : count ≤ length) (percent first : Nat) :
    (verdicts percent first length).take count = verdicts percent first count := by
  rw [verdicts, ← List.map_take, List.take_range'_of_length_ge inside]
  rfl

theorem drop_verdicts (count percent first length : Nat) :
    (verdicts percent first length).drop count = verdicts percent (first + count) (length - count) := by
  rw [verdicts, ← List.map_drop, List.drop_range', Nat.mul_one]
  rfl

theorem count_verdicts (bounded : percent ≤ 100) (first count : Nat) :
    downgradedOf percent first + (verdicts percent first count).count true =
      downgradedOf percent (first + count) := by
  induction count generalizing first with
  | zero => rfl
  | succ count ih =>
      have next := ih (first + 1)
      rw [downgradedOf_succ bounded, Nat.add_right_comm, Nat.add_assoc] at next
      rw [verdicts_succ, List.count_cons, Nat.add_comm count, ← Nat.add_assoc first, ← next]
      simp only [beq_true, decide_eq_true_eq]

/-- Of a hundred roots in a row as many are downgraded as the percentage says. -/
theorem count_hundred (bounded : percent ≤ 100) (first : Nat) :
    (verdicts percent first 100).count true = percent := by
  have counted := count_verdicts bounded first 100
  rw [downgradedOf_add_hundred] at counted
  omega

/-- From a counter at a multiple of a hundred on, the share is that of a counter at its start. -/
theorem count_of_multiple (bounded : percent ≤ 100) {first : Nat} (multiple : first % 100 = 0)
    (count : Nat) : (verdicts percent first count).count true = downgradedOf percent count := by
  have counted := count_verdicts bounded first count
  have whole : (first + count) / 100 = first / 100 + count / 100 := by omega
  have rest : (first + count) % 100 = count % 100 := by omega
  rw [downgradedOf, downgradedOf, multiple, whole, rest, Nat.add_mul, Nat.zero_min] at counted
  rw [downgradedOf]
  omega

/-- The verdict on the next root, which is counted unless none is ever downgraded. -/
theorem decide_cases (t : RatioTracker) :
    t.decide.1 = (t.decisions % 100 < t.ratio : Bool) ∧
      t.decide.2.decisions = t.decisions + (if t.ratio = 0 then 0 else 1) ∧
      t.decide.2.downgraded = t.downgraded + if t.decisions % 100 < t.ratio then 1 else 0 := by
  refine ⟨?_, decisions_decide t, ?_⟩
  · by_cases none : t.ratio = 0
    · simp [RatioTracker.decide, none]
    · exact decide_of_pos t none
  · unfold RatioTracker.decide
    split
    · rename_i none
      rw [none, if_neg (Nat.not_lt_zero _), Nat.add_zero]
    · dsimp only
      split <;> rfl

/-- A decision at a percentage the settings ask for. -/
theorem decide_setPercent (bounded : percent ≤ 100) (t : RatioTracker) :
    (t.setPercent percent).decide.1 = (t.decisions % 100 < percent : Bool) ∧
      (t.setPercent percent).decide.2.decisions = t.decisions + (if percent = 0 then 0 else 1) ∧
      (t.setPercent percent).decide.2.downgraded =
        t.downgraded + if t.decisions % 100 < percent then 1 else 0 := by
  have ratio : (t.setPercent percent).ratio = percent := Nat.min_eq_left bounded
  have decided := decide_cases (t.setPercent percent)
  rwa [ratio] at decided

end

end RatioTracker

namespace Switchboard

/-- The strategy of a number decides about roots, and this is its counter. -/
def Tracks (board : Switchboard) (number : Nat) (tracker : RatioTracker) : Prop :=
  board.strategies[number]? = some (.endpoints tracker)

section
variable {board : Switchboard} {number : Nat} {tracker : RatioTracker}

theorem tracks_iff : board.Tracks number tracker ↔ board.tracker? number = some tracker := by
  unfold Tracks tracker?
  split
  · rename_i known
    rw [known]
    simp
  · rename_i other
    refine ⟨fun known => absurd known (other tracker), nofun⟩

theorem decideRoot_eq (h : board.Tracks number tracker) :
    let decided := (tracker.setPercent (clampPercent (Strategy.ratioSetting board.settings))).decide
    board.decideRoot number = (decided.1, board.replace number (.endpoints decided.2)) := by
  unfold Tracks at h
  rw [decideRoot, h]

/-- A decision moves on the counter of its own strategy. -/
theorem Tracks.decideRoot (h : board.Tracks number tracker) :
    (board.decideRoot number).2.Tracks number
      (tracker.setPercent (clampPercent (Strategy.ratioSetting board.settings))).decide.2 := by
  rw [decideRoot_eq h]
  exact List.getElem?_set_self (List.getElem?_eq_some_iff.mp h).1

/-- Nothing but a decision of its own moves a counter on. -/
theorem Tracks.step (h : board.Tracks number tracker) {call : Call}
    (apart : call ≠ .decideRoot number) : (step board call).2.Tracks number tracker := by
  have seats : board.Seats number (.endpoints tracker) := h
  cases call with
  | write name value => exact seats.serveAll _
  | register name value => exact seats.register name value
  | subscribe listener => exact h
  | dismiss id => exact h
  | add s => exact seats.add s
  | enlist number => exact seats.congr (strategies_enlist number board)
  | refresh => exact h
  | collect probe => exact seats.collect nofun probe
  | ignoreApplications other applications => exact seats.ignoreApplications nofun other applications
  | disableAspect other aspect plugin reason =>
      exact seats.disableAspect (.inr nofun) aspect plugin reason
  | enableAspect other aspect => exact seats.enableAspect (.inr nofun) aspect
  | recordFailure other aspect plugin reason =>
      exact seats.recordFailure (.inr nofun) aspect plugin reason
  | decideRoot other => exact seats.decideRoot (.inl fun same => apart (congrArg _ same))

end

end Switchboard
end SpanCapture
