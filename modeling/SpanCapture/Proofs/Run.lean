/-! Runs of a system that takes calls one after another and answers each. The history of a
run is the list of its moments, oldest first; whoever watches may keep a book by folding
over it. What every moment keeps holds after every run. -/
namespace SpanCapture

/-- One call: the states before and after it, and its answer. -/
structure Moment (State Call Answer : Type) where
  before : State
  call : Call
  answer : Answer
  after : State

variable {State Call Answer Book : Type}

def Moment.at (step : State → Call → Answer × State) (s : State) (call : Call) :
    Moment State Call Answer :=
  ⟨s, call, (step s call).1, (step s call).2⟩

/-- The runs from a state in which every moment is allowed. -/
inductive Run (step : State → Call → Answer × State) (allowed : Moment State Call Answer → Prop)
    (first : State) : List (Moment State Call Answer) → State → Prop
  | start : Run step allowed first [] first
  | next {history : List (Moment State Call Answer)} {s : State} (call : Call) :
      Run step allowed first history s → allowed (.at step s call) →
      Run step allowed first (history ++ [.at step s call]) (step s call).2

def moments (step : State → Call → Answer × State) (s : State) :
    List Call → List (Moment State Call Answer)
  | [] => []
  | call :: rest => .at step s call :: moments step (step s call).2 rest

def after (step : State → Call → Answer × State) (s : State) : List Call → State
  | [] => s
  | call :: rest => after step (step s call).2 rest

theorem after_append {step : State → Call → Answer × State} (calls more : List Call) (s : State) :
    after step s (calls ++ more) = after step (after step s calls) more := by
  induction calls generalizing s with
  | nil => rfl
  | cons call rest ih => exact ih _

theorem call_mem_of_mem_moments {step : State → Call → Answer × State} {s : State}
    {calls : List Call} {m : Moment State Call Answer} (member : m ∈ moments step s calls) :
    m.call ∈ calls := by
  induction calls generalizing s with
  | nil => cases member
  | cons call rest ih =>
      rcases List.mem_cons.mp member with rfl | later
      · exact List.mem_cons_self
      · exact List.mem_cons_of_mem _ (ih later)

theorem eq_at_of_mem_moments {step : State → Call → Answer × State} {s : State} {calls : List Call}
    {m : Moment State Call Answer} (member : m ∈ moments step s calls) :
    m = .at step m.before m.call := by
  induction calls generalizing s with
  | nil => cases member
  | cons call rest ih =>
      rcases List.mem_cons.mp member with rfl | later
      · rfl
      · exact ih later

theorem map_call_moments (step : State → Call → Answer × State) (s : State) (calls : List Call) :
    (moments step s calls).map (·.call) = calls := by
  induction calls generalizing s with
  | nil => rfl
  | cons call rest ih => exact congrArg (call :: ·) (ih _)

namespace Run

variable {step : State → Call → Answer × State} {allowed : Moment State Call Answer → Prop}
  {first s : State} {history : List (Moment State Call Answer)}

/-- A relation between a book kept along the run and the state. -/
theorem book_invariant {R : Book → State → Prop} (note : Book → Moment State Call Answer → Book)
    (book : Book) (start : R book first)
    (keeps : ∀ book s call, R book s → allowed (.at step s call) →
      R (note book (.at step s call)) (step s call).2)
    (run : Run step allowed first history s) : R (history.foldl note book) s := by
  induction run with
  | start => exact start
  | next call before ok ih =>
      rw [List.foldl_append]
      exact keeps _ _ call ih ok

theorem invariant {P : State → Prop} (start : P first)
    (keeps : ∀ s call, P s → allowed (.at step s call) → P (step s call).2)
    (run : Run step allowed first history s) : P s :=
  book_invariant (R := fun (_ : Unit) s => P s) (fun _ _ => ()) () start
    (fun _ s call h ok => keeps s call h ok) run

/-- A run from where another ends goes on with it. -/
theorem trans {last : State} {later : List (Moment State Call Answer)}
    (run : Run step allowed first history s) (more : Run step allowed s later last) :
    Run step allowed first (history ++ later) last := by
  induction more with
  | start => rwa [List.append_nil]
  | next call _ ok ih =>
      rw [← List.append_assoc]
      exact .next call ih ok

/-- Of which moments are allowed only those of the run itself matter. -/
theorem restrict {known : Moment State Call Answer → Prop}
    (run : Run step allowed first history s) (all : ∀ m ∈ history, allowed m → known m) :
    Run step known first history s := by
  induction run with
  | start => exact .start
  | next call before ok ih =>
      obtain ⟨earlier, last⟩ := List.forall_mem_append.mp all
      exact .next call (ih earlier) (last _ List.mem_cons_self ok)

theorem of_moments {calls : List Call} (ok : ∀ m ∈ moments step first calls, allowed m) :
    Run step allowed first (moments step first calls) (after step first calls) := by
  induction calls generalizing first with
  | nil => exact .start
  | cons call rest ih =>
      obtain ⟨here, later⟩ := List.forall_mem_cons.mp ok
      exact (Run.next call .start here).trans (ih later)

end Run

/-- What every allowed call keeps, a row of them keeps. -/
theorem after_invariant {step : State → Call → Answer × State} {P : State → Prop}
    {allowed : Call → Prop} {s : State} {calls : List Call} (start : P s)
    (keeps : ∀ s call, P s → allowed call → P (step s call).2)
    (ok : ∀ call ∈ calls, allowed call) : P (after step s calls) := by
  have run : Run step (fun m => allowed m.call) s (moments step s calls) (after step s calls) :=
    .of_moments fun m member => ok m.call (call_mem_of_mem_moments member)
  exact run.invariant start keeps

end SpanCapture
