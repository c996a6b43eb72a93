import SpanCapture.Proofs.Operation

/-! Calm scripts: none of their actions crashes, nor any they defer. Finalizing runs every pending
script to its end, so it is answered just when all of them are calm. How long it takes does not
depend on when it is done. -/
namespace SpanCapture

theorem Clock.advance_advance (n m : Nat) (clock : Clock) :
    (clock.advance n).advance m = clock.advance (n + m) := by
  simp only [Clock.advance, Nat.add_assoc]

namespace Action

mutual

/-- Whether an action does not crash, and nothing it defers does. -/
def calm : Action → Bool
  | .crash _ => false
  | .defer script => calmAll script
  | _ => true

def calmAll : List Action → Bool
  | [] => true
  | action :: rest => calm action && calmAll rest

end

theorem calmAll_iff {script : List Action} : calmAll script ↔ ∀ action ∈ script, action.calm := by
  induction script with
  | nil => simp [calmAll]
  | cons action rest ih => simp [calmAll, ih]

end Action

def Task.calm : Task → Bool
  | .act _ action => action.calm
  | .drain _ => true

namespace Operation

def Calm (op : Operation) : Prop := ∀ script ∈ op.pending, Action.calmAll script

instance (op : Operation) : Decidable op.Calm :=
  inferInstanceAs (Decidable (∀ script ∈ op.pending, _ = true))

/-- How long finalizing takes. -/
def delay (op : Operation) : Nat := (op.finalize ⟨0, 0⟩).1.now

section
variable {clock : Clock} {op : Operation} {tasks : List Task} {table : RichTable}

theorem Settled.calm (settled : op.Settled) : op.Calm := by
  intro script waiting
  rw [settled] at waiting
  cases waiting

/-- What an action leaves pending is calm just when that was and the action is. -/
theorem calm_apply {source : Option RichTable} {action : Action}
    (quiet : ∀ message, action ≠ .crash message) :
    (op.apply clock source action).2.1.Calm ↔ op.Calm ∧ action.calm := by
  cases action with
  | crash message => exact absurd rfl (quiet message)
  | defer script =>
      simp only [Operation.apply, Calm, defer, Action.calm, List.forall_mem_append,
        List.forall_mem_singleton]
  | putJson key text =>
      simp only [Operation.apply, Action.calm, and_true]
      split
      · exact Iff.rfl
      · split <;> exact Iff.rfl
  | markEndpoint on => cases on <;> exact (and_iff_left rfl).symm
  | _ => exact (and_iff_left rfl).symm

theorem calm_batch {scripts : List (List Action)} :
    (∀ task ∈ Task.batch table scripts, task.calm) ↔ ∀ script ∈ scripts, Action.calmAll script := by
  simp only [Task.batch, Task.ofScript, List.mem_flatMap, List.mem_map, Action.calmAll_iff]
  constructor
  · intro all script member action inside
    exact all _ ⟨script, member, action, inside, rfl⟩
  · rintro all task ⟨script, member, action, inside, rfl⟩
    exact all script member action inside

/-- A run whose last task is a drain comes to every pending script. -/
theorem isDone_run_iff (last : tasks.getLast? = some (.drain table)) :
    (run clock op tasks).2.2.isDone ↔ op.Calm ∧ ∀ task ∈ tasks, task.calm := by
  fun_induction run clock op tasks with
  | case1 => cases last
  | case2 clock op source message rest =>
      simp [Task.calm, Action.calm]
  | case3 clock op source rest none ih =>
      rw [ih (Task.getLast?_of_act last), List.forall_mem_cons]
      simp [Task.calm, Action.calm]
  | case4 clock op source rest some ih =>
      have later := Task.getLast?_of_act last
      rw [ih (by rw [List.getLast?_cons, later]; rfl), List.forall_mem_cons, List.forall_mem_cons]
      simp [Task.calm, Action.calm, Calm]
  | case5 clock op source action rest _ _ _ empty =>
      cases rest with
      | nil => cases last
      | cons next rest => cases empty
  | case6 clock op source action rest quiet _ _ _ ih =>
      rw [ih (Task.getLast?_of_act last), List.forall_mem_cons, calm_apply quiet, and_assoc]
      exact Iff.rfl
  | case7 clock op source rest none ih =>
      have settled : op.Settled := List.isEmpty_iff.mp none
      cases rest with
      | nil =>
          rw [run]
          simp [settled.calm, Task.calm]
      | cons next rest =>
          rw [List.getLast?_cons_cons] at last
          rw [ih last, List.forall_mem_cons (a := Task.drain source)]
          simp [Task.calm]
  | case8 clock op source rest some ih =>
      -- What was pending is now among the tasks.
      have none : Calm { op with pending := [] } := Settled.calm rfl
      rw [ih (by rw [List.getLast?_append, last]; rfl), List.forall_mem_append, calm_batch]
      exact and_iff_right none

theorem isDone_finalize_iff (clock : Clock) : (op.finalize clock).2.2.isDone ↔ op.Calm := by
  by_cases settled : op.Settled
  · rw [finalize_settled settled]
    exact iff_of_true rfl settled.calm
  · rw [finalize_of_pending clock settled]
    dsimp only
    rw [Outcome.isDone_map, isDone_run_iff rfl, List.forall_mem_singleton]
    exact and_iff_left rfl

theorem Calm.ne_crashed (calm : op.Calm) (message : String) :
    (op.finalize clock).2.2 ≠ .crashed message := by
  intro crashed
  have done := (isDone_finalize_iff clock).mpr calm
  rw [crashed] at done
  cases done

theorem apply_clock (op : Operation) (source : Option RichTable) (action : Action) :
    ∃ n, ∀ clock later : Clock,
      op.apply later source action = (later.advance n, (op.apply clock source action).2) := by
  cases action with
  | advance nanos => exact ⟨nanos, fun _ _ => rfl⟩
  | putJson key text =>
      refine ⟨0, fun _ later => ?_⟩
      simp only [apply]
      split
      · rfl
      · split <;> rfl
  | _ => exact ⟨0, fun _ _ => rfl⟩

theorem run_act {source : Option RichTable} {action : Action} {rest : List Task}
    (quiet : ∀ message, action ≠ .crash message) (plain : action ≠ .finalize) :
    run clock op (.act source action :: rest) =
      let next := op.apply clock source action
      if rest.isEmpty then (next.1, next.2.1, .done next.2.2) else run next.1 next.2.1 rest := by
  rw [run]
  · exact quiet
  · exact plain

/-- A run takes some time, and what it does beside does not depend on when it is. -/
theorem run_clock (clock : Clock) (op : Operation) (tasks : List Task) :
    ∃ n, ∀ later : Clock, run later op tasks = (later.advance n, (run clock op tasks).2) := by
  fun_induction run clock op tasks with
  | case1 clock op =>
      refine ⟨0, fun later => ?_⟩
      rw [run]
      rfl
  | case2 clock op source message rest =>
      refine ⟨0, fun later => ?_⟩
      rw [run]
      rfl
  | case3 clock op source rest none ih =>
      obtain ⟨n, same⟩ := ih
      refine ⟨n, fun later => ?_⟩
      rw [run, if_pos none]
      exact same later
  | case4 clock op source rest some ih =>
      obtain ⟨n, same⟩ := ih
      refine ⟨n, fun later => ?_⟩
      rw [run, if_neg some]
      exact same later
  | case5 clock op source action rest quiet plain next empty =>
      obtain ⟨n, same⟩ := apply_clock op source action
      refine ⟨n, fun later => ?_⟩
      rw [run_act quiet plain, if_pos empty, same clock later]
  | case6 clock op source action rest quiet plain next some ih =>
      obtain ⟨n, same⟩ := apply_clock op source action
      obtain ⟨m, rest⟩ := ih
      refine ⟨n + m, fun later => ?_⟩
      rw [run_act quiet plain, if_neg some, same clock later, rest, Clock.advance_advance]
  | case7 clock op source rest none ih =>
      obtain ⟨n, same⟩ := ih
      refine ⟨n, fun later => ?_⟩
      rw [run, if_pos none]
      exact same later
  | case8 clock op source rest some ih =>
      obtain ⟨n, same⟩ := ih
      refine ⟨n, fun later => ?_⟩
      rw [run, if_neg some]
      exact same later

/-- Finalizing later takes as long and leaves the same. -/
theorem finalize_clock (clock : Clock) (op : Operation) :
    op.finalize clock = (clock.advance op.delay, (op.finalize ⟨0, 0⟩).2) := by
  obtain ⟨n, same⟩ := run_clock ⟨0, 0⟩ op [.act none .finalize]
  have first := congrArg (fun result => result.1.now) (same ⟨0, 0⟩)
  have takes : op.delay = n := first.trans (Nat.zero_add n)
  rw [takes, finalize, same clock]
  rfl

end
end Operation
end SpanCapture
