import SpanCapture.Proofs.Operation.Calm

/-! Finalizing script by script. The pending scripts are numbered in the order in which they were
deferred, those deferred on the way after those that waited at the call, and a finalizing run is
told as the events that its scripts pass: a script begins, and it does one action after the other,
each with the table it was given. The telling follows the run job by job, so it ends with the same
clock, operation and answer. -/
namespace SpanCapture
namespace Finalizing

/-- What a script with a number does while its operation is finalized. -/
inductive Event where
  | begins (number : Nat) (table : RichTable)
  | acts (number : Nat) (table : RichTable) (action : Action)
  deriving Repr

namespace Event

def number : Event → Nat
  | begins number _ => number
  | acts number _ _ => number

/-- A script from its beginning to its end. -/
def turn (table : RichTable) (number : Nat) (script : List Action) : List Event :=
  begins number table :: script.map (acts number table)

def turns (table : RichTable) (first : Nat) : List (List Action) → List Event
  | [] => []
  | script :: rest => turn table first script ++ turns table (first + 1) rest

end Event

/-- What a finalizing run has still to do. -/
inductive Job where
  | event (event : Event)
  /-- Scripts pending when it is reached. -/
  | drain (table : RichTable)

namespace Job

def event? : Job → Option Event
  | event e => some e
  | drain _ => none

def tasks : Job → List Task
  | event (.begins _ _) => []
  | event (.acts _ table action) => [.act (some table) action]
  | drain table => [.drain table]

def weight : Job → Nat
  | event (.begins _ _) => 1
  | event (.acts _ _ action) => 2 * action.weight
  | drain _ => 2

def weights : List Job → Nat
  | [] => 0
  | job :: rest => job.weight + weights rest

@[simp] theorem weights_cons (job : Job) (rest : List Job) :
    weights (job :: rest) = job.weight + weights rest := rfl

@[simp] theorem weights_append (a b : List Job) : weights (a ++ b) = weights a + weights b := by
  induction a with
  | nil => exact (Nat.zero_add _).symm
  | cons job rest ih => rw [List.cons_append, weights_cons, weights_cons, ih, Nat.add_assoc]

theorem weights_turn (table : RichTable) (number : Nat) (script : List Action) :
    weights ((Event.turn table number script).map event) = 1 + 2 * Action.scriptWeight script := by
  rw [Event.turn, List.map_cons, weights_cons]
  congr 1
  induction script with
  | nil => rfl
  | cons action rest ih =>
      rw [List.map_cons, List.map_cons, weights_cons, ih, Action.scriptWeight]
      exact (Nat.mul_add 2 action.weight _).symm

/-- Pending scripts weigh more than their turns, by one each. -/
theorem weights_turns (table : RichTable) (first : Nat) (scripts : List (List Action)) :
    weights ((Event.turns table first scripts).map event) + scripts.length =
      2 * pendingWeight scripts := by
  induction scripts generalizing first with
  | nil => rfl
  | cons script rest ih =>
      have later := ih (first + 1)
      simp only [Event.turns, List.map_append, weights_append, weights_turn, pendingWeight,
        List.length_cons]
      omega

theorem tasks_turns (table : RichTable) (first : Nat) (scripts : List (List Action)) :
    ((Event.turns table first scripts).map event).flatMap tasks = Task.batch table scripts := by
  induction scripts generalizing first with
  | nil => rfl
  | cons script rest ih =>
      have own : ((Event.turn table first script).map event).flatMap tasks =
          Task.ofScript table script := by
        simp only [Event.turn, List.map_cons, List.flatMap_cons, tasks, List.nil_append,
          List.map_map, List.flatMap_map, Task.ofScript]
        exact List.map_eq_flatMap.symm
      rw [Event.turns, List.map_append, List.flatMap_append, own, ih]
      rfl

end Job

end Finalizing

/-- A finalizing run on its way: the scripts it has taken, the events that have passed and the
jobs that are left. -/
structure Finalizing where
  clock : Clock
  op : Operation
  taken : List (List Action) := []
  events : List Finalizing.Event := []
  jobs : List Finalizing.Job := []

namespace Finalizing

/-- The operation is finalized here: what is pending comes before the jobs left, and gets the side
table. -/
def call (m : Finalizing) : Finalizing :=
  if m.op.pending.isEmpty then m
  else { m with op := { m.op with rich := [] }, jobs := .drain m.op.rich :: m.jobs }

theorem call_of_settled {m : Finalizing} (settled : m.op.Settled) : m.call = m :=
  if_pos (List.isEmpty_iff.mpr settled)

theorem call_of_waiting {m : Finalizing} (waiting : ¬m.op.Settled) :
    m.call = { m with op := { m.op with rich := [] }, jobs := .drain m.op.rich :: m.jobs } :=
  if_neg fun none => waiting (List.isEmpty_iff.mp none)

def take (table : RichTable) (m : Finalizing) : Finalizing :=
  { m with
    op := { m.op with pending := [] }
    taken := m.taken ++ m.op.pending
    jobs := (Event.turns table m.taken.length m.op.pending).map .event ++ .drain table :: m.jobs }

def act (table : RichTable) (action : Action) (m : Finalizing) : Option Finalizing :=
  match action with
  | .crash _ => none
  | .finalize => some m.call
  | action =>
    let after := m.op.apply m.clock (some table) action
    some { m with clock := after.1, op := after.2.1 }

def pass (event : Event) (rest : List Job) (m : Finalizing) : Finalizing :=
  { m with events := m.events ++ [event], jobs := rest }

/-- One job done, if one is left and it does not crash. -/
def next? (m : Finalizing) : Option Finalizing :=
  match m.jobs with
  | [] => none
  | .event (.begins number table) :: rest => some (m.pass (.begins number table) rest)
  | .event (.acts number table action) :: rest =>
    act table action (m.pass (.acts number table action) rest)
  | .drain table :: rest =>
    if m.op.pending.isEmpty then some { m with jobs := rest }
    else some (take table { m with jobs := rest })

inductive Step (m : Finalizing) : Finalizing → Prop
  | begins {number : Nat} {table : RichTable} {rest : List Job}
      (here : m.jobs = .event (.begins number table) :: rest) :
      Step m (m.pass (.begins number table) rest)
  | acts {number : Nat} {table : RichTable} {action : Action} {rest : List Job}
      (here : m.jobs = .event (.acts number table action) :: rest)
      (quiet : ∀ message, action ≠ .crash message) (plain : action ≠ .finalize) :
      Step m { m.pass (.acts number table action) rest with
        clock := (m.op.apply m.clock (some table) action).1
        op := (m.op.apply m.clock (some table) action).2.1 }
  | calls {number : Nat} {table : RichTable} {rest : List Job}
      (here : m.jobs = .event (.acts number table .finalize) :: rest) :
      Step m (m.pass (.acts number table .finalize) rest).call
  | ends {table : RichTable} {rest : List Job} (here : m.jobs = .drain table :: rest)
      (settled : m.op.Settled) : Step m { m with jobs := rest }
  | takes {table : RichTable} {rest : List Job} (here : m.jobs = .drain table :: rest)
      (waiting : ¬m.op.Settled) : Step m (take table { m with jobs := rest })

section
variable {m next : Finalizing}

theorem step_of_next (step : m.next? = some next) : m.Step next := by
  unfold next? at step
  split at step
  case h_1 => cases step
  case h_2 here =>
      cases step
      exact .begins here
  case h_3 number table action rest here =>
      unfold act at step
      split at step
      · cases step
      · cases step
        exact .calls here
      · rename_i quiet plain
        cases step
        exact .acts here quiet plain
  case h_4 here =>
      split at step
      · rename_i none
        cases step
        exact .ends here (List.isEmpty_iff.mp none)
      · rename_i some
        cases step
        exact .takes here fun none => some (List.isEmpty_iff.mpr none)

/-- The run stops when nothing is left to do, or before a crash. -/
theorem stopped_of_next (stop : m.next? = none) :
    m.jobs = [] ∨ ∃ number table message rest,
      m.jobs = .event (.acts number table (.crash message)) :: rest := by
  unfold next? at stop
  split at stop
  case h_1 here => exact .inl here
  case h_2 => cases stop
  case h_3 number table action rest here =>
      unfold act at stop
      split at stop
      · exact .inr ⟨number, table, _, rest, here⟩
      · cases stop
      · cases stop
  case h_4 => split at stop <;> cases stop

def weight (m : Finalizing) : Nat := 2 * pendingWeight m.op.pending + Job.weights m.jobs

theorem weight_call_le (m : Finalizing) : m.call.weight ≤ m.weight + 2 := by
  unfold call
  split
  · exact Nat.le_add_right _ _
  · simp only [weight, Job.weights_cons, Job.weight]
    omega

theorem weight_step (step : m.Step next) : next.weight < m.weight := by
  cases step with
  | begins here =>
      simp only [weight, pass, here, Job.weights_cons, Job.weight]
      omega
  | @acts number table action rest here quiet plain =>
      have lighter := m.op.weight_apply m.clock (some table) action
      simp only [weight, pass, here, Job.weights_cons, Job.weight]
      omega
  | @calls number table rest here =>
      refine Nat.lt_of_le_of_lt (weight_call_le _) ?_
      simp only [weight, pass, here, Job.weights_cons, Job.weight, Action.weight]
      omega
  | ends here settled =>
      simp only [weight, here, Job.weights_cons, Job.weight]
      omega
  | @takes table rest here waiting =>
      have turns := Job.weights_turns table m.taken.length m.op.pending
      have some := List.length_pos_iff.mpr waiting
      simp only [weight, take, here, Job.weights_append, Job.weights_cons, pendingWeight]
      omega

end

def run (m : Finalizing) : Finalizing :=
  match _ : m.next? with
  | none => m
  | some next => run next
  termination_by m.weight
  decreasing_by exact weight_step (step_of_next ‹_›)

theorem run_keeps {P : Finalizing → Prop} (step : ∀ m next, m.Step next → P m → P next)
    (m : Finalizing) (h : P m) : P m.run := by
  fun_induction run m with
  | case1 => exact h
  | case2 m next here ih => exact ih (step m next (step_of_next here) h)

theorem next_run (m : Finalizing) : m.run.next? = none := by
  fun_induction run m with
  | case1 m stop => exact stop
  | case2 m next here ih => exact ih

/-- What the jobs left answer, run as the tasks they are. -/
def answer (m : Finalizing) : Clock × Operation × Outcome Unit :=
  let (clock, op, outcome) := Operation.run m.clock m.op (m.jobs.flatMap Job.tasks)
  (clock, op, outcome.map fun _ => ())

section
variable {m next : Finalizing}

/-- A call answers what finalizing does before the jobs left. -/
theorem answer_call (m : Finalizing) (source : Option RichTable) :
    m.call.answer =
      let (clock, op, outcome) :=
        Operation.run m.clock m.op (.act source .finalize :: m.jobs.flatMap Job.tasks)
      (clock, op, outcome.map fun _ => ()) := by
  rw [Operation.run]
  by_cases settled : m.op.Settled
  · rw [call_of_settled settled, if_pos (List.isEmpty_iff.mpr settled)]
    rfl
  · rw [call_of_waiting settled, if_neg fun none => settled (List.isEmpty_iff.mp none)]
    rfl

theorem answer_step (step : m.Step next) : next.answer = m.answer := by
  cases step with
  | begins here =>
      simp only [answer, pass, here, List.flatMap_cons, Job.tasks, List.nil_append]
  | @acts number table action rest here quiet plain =>
      simp only [answer, pass, here, List.flatMap_cons, Job.tasks, List.singleton_append,
        Operation.run_act quiet plain]
      split
      · rename_i none
        rw [List.isEmpty_iff.mp none, Operation.run]
        rfl
      · rfl
  | @calls number table rest here =>
      rw [answer_call _ (some table), answer, here]
      rfl
  | ends here settled =>
      simp only [answer, here, List.flatMap_cons, Job.tasks, List.singleton_append]
      rw [Operation.run.eq_def _ _ (.drain _ :: _)]
      simp only [List.isEmpty_iff.mpr settled, if_true]
  | @takes table rest here waiting =>
      have some : ¬m.op.pending.isEmpty := fun none => waiting (List.isEmpty_iff.mp none)
      simp only [answer, take, here, List.flatMap_append, List.flatMap_cons, Job.tasks_turns,
        Job.tasks, List.singleton_append]
      rw [Operation.run.eq_def m.clock m.op (.drain table :: _)]
      simp only [some]
      rfl

theorem answer_run (m : Finalizing) : m.run.answer = m.answer :=
  run_keeps (P := fun now => now.answer = m.answer)
    (fun _ _ step same => (answer_step step).trans same) m rfl

/-- A run that answers has done all its jobs. -/
theorem jobs_run (done : m.answer.2.2.isDone) : m.run.jobs = [] := by
  rcases stopped_of_next (next_run m) with none | ⟨number, table, message, rest, crash⟩
  · exact none
  · -- The answer would be that of the crash before which the run stops.
    rw [← answer_run, answer, crash, List.flatMap_cons, Job.tasks, List.singleton_append,
      Operation.run] at done
    cases done

end

end Finalizing

namespace Operation

/-- Finalizing, told script by script. -/
def finalizing (clock : Clock) (op : Operation) : Finalizing :=
  (Finalizing.call { clock, op }).run

/-- The telling is that of the call: the same clock, operation and answer at the end. -/
theorem finalize_eq_finalizing {op : Operation} (calm : op.Calm) (clock : Clock) :
    op.finalize clock = ((op.finalizing clock).clock, (op.finalizing clock).op, .done ()) ∧
      (op.finalizing clock).jobs = [] := by
  have start : (Finalizing.call { clock, op }).answer = op.finalize clock :=
    Finalizing.answer_call { clock, op } none
  have done : (Finalizing.call { clock, op }).answer.2.2.isDone :=
    start ▸ (isDone_finalize_iff clock).mpr calm
  have none := Finalizing.jobs_run done
  refine ⟨?_, none⟩
  rw [← start, ← Finalizing.answer_run, Finalizing.answer, none, List.flatMap_nil, Operation.run]
  rfl

end Operation
end SpanCapture
