import SpanCapture.Json.Parser
import SpanCapture.Operation.Basic
import SpanCapture.Outcome

/-! Running scripts on an operation. Finalizing runs the pending scripts, first come first
served, and goes on with those deferred meanwhile until none is left; each script runs
once. A script may itself finalize its operation: what is pending then runs before the
script goes on.

The run is a list of tasks still to do. It ends because tasks and pending scripts have a
weight that every step lowers. A crash drops all remaining tasks and leaves the
operation as it is at that moment. -/
namespace SpanCapture

/-- What an action answers. -/
inductive Reply where
  | nothing
  | value (found : Option Value)
  | refused (failure : Failure)
  | unreadable
  | state (op : Operation)
  deriving Inhabited

namespace Action

mutual

/-- The weight of an action: one, and for a deferred script what it adds to the pending
ones. -/
def weight : Action → Nat
  | .defer script => 2 + scriptWeight script
  | .finalize => 2
  | _ => 1

def scriptWeight : List Action → Nat
  | [] => 0
  | action :: rest => weight action + scriptWeight rest

end

end Action

def pendingWeight : List (List Action) → Nat
  | [] => 0
  | script :: rest => 1 + Action.scriptWeight script + pendingWeight rest

theorem pendingWeight_append (a b : List (List Action)) :
    pendingWeight (a ++ b) = pendingWeight a + pendingWeight b := by
  induction a with
  | nil => simp [pendingWeight]
  | cons s rest ih => simp [pendingWeight, ih]; omega

/-- What a run of scripts has still to do. -/
inductive Task where
  /-- An action; the side table is the one a finalizing run hands to its scripts. -/
  | act (table : Option RichTable) (action : Action)
  /-- The rest of a finalizing run: scripts pending when it is reached. -/
  | drain (table : RichTable)

namespace Task

def ofScript (table : RichTable) (script : List Action) : List Task :=
  script.map (act (some table))

/-- The actions of scripts in a row, each with the table of the run. -/
def batch (table : RichTable) (scripts : List (List Action)) : List Task :=
  scripts.flatMap (ofScript table)

def weights : List Task → Nat
  | [] => 0
  | .act _ action :: rest => action.weight + weights rest
  | .drain _ :: rest => 1 + weights rest

theorem weights_append (a b : List Task) : weights (a ++ b) = weights a + weights b := by
  induction a with
  | nil => simp [weights]
  | cons t rest ih => cases t <;> simp [weights, ih] <;> omega

theorem weights_ofScript (table : RichTable) (script : List Action) :
    weights (ofScript table script) = Action.scriptWeight script := by
  induction script with
  | nil => rfl
  | cons a rest ih =>
    simp only [ofScript] at ih
    simp [ofScript, weights, Action.scriptWeight, ih]

theorem weights_batch (table : RichTable) (scripts : List (List Action)) :
    weights (batch table scripts) + scripts.length = pendingWeight scripts := by
  induction scripts with
  | nil => rfl
  | cons s rest ih =>
    simp only [batch] at ih
    simp [batch, List.flatMap_cons, weights_append, weights_ofScript, pendingWeight, ← ih]
    omega

end Task

namespace Operation

/-- What the clock and an operation are after an action that neither finalizes nor
crashes, and the answer. -/
def apply (clock : Clock) (op : Operation) (table : Option RichTable) :
    Action → Clock × Operation × Reply
  | .put key value => (clock, op.put key value, .nothing)
  | .putJson key text =>
    match Json.parse? text with
    | none => (clock, op, .unreadable)
    | some document =>
      match op.props.putJson key document with
      | .ok props => (clock, { op with props }, .nothing)
      | .error failure => (clock, op, .refused failure)
  | .increment key => (clock, op.put key (.int ((op.props.getInt? key).getD 0 + 1)), .nothing)
  | .get key => (clock, op, .value (op.props.find? key))
  | .remove key => (clock, op.remove key, .value (op.props.find? key))
  | .label text => (clock, { op with label := text }, .nothing)
  | .rich key target =>
    let found := (table.getD op.rich).find? key
    (clock, op.put target (.text (found.getD "missing")), .nothing)
  | .putRich key object => (clock, op.putRich key object, .nothing)
  | .fail message => (clock, op.fail message, .nothing)
  | .markEndpoint on => (clock, op.markEndpoint on, .nothing)
  | .advance nanos => (clock.advance nanos, op, .nothing)
  | .pending target => (clock, op.put target (.ofUnsigned op.pending.length), .nothing)
  | .defer script => (clock, op.defer script, .nothing)
  | .state => (clock, op, .state op)
  | .finalize => (clock, op, .nothing)
  | .crash _ => (clock, op, .nothing)

theorem weight_apply (clock : Clock) (op : Operation) (table : Option RichTable)
    (action : Action) :
    pendingWeight (op.apply clock table action).2.1.pending < pendingWeight op.pending +
      action.weight := by
  cases action <;> simp only [apply, Action.weight, put, remove, putRich, fail, markEndpoint,
    defer, pendingWeight_append, pendingWeight]
  case putJson key text =>
    split
    · exact Nat.lt_succ_self _
    · split <;> exact Nat.lt_succ_self _
  case markEndpoint on => cases on <;> exact Nat.lt_succ_self _
  all_goals omega

/-- Does tasks one after another until none is left or one crashes. -/
def run (clock : Clock) (op : Operation) (tasks : List Task) : Clock × Operation × Outcome Reply :=
  match tasks with
  | [] => (clock, op, .done .nothing)
  | .act _ (.crash message) :: _ => (clock, op, .crashed message)
  | .act _ .finalize :: rest =>
    if op.pending.isEmpty then run clock op rest
    else run clock { op with rich := [] } (.drain op.rich :: rest)
  | .act table action :: rest =>
    let next := op.apply clock table action
    if rest.isEmpty then (next.1, next.2.1, .done next.2.2) else run next.1 next.2.1 rest
  | .drain table :: rest =>
    if op.pending.isEmpty then run clock op rest
    else
      run clock { op with pending := [] }
        (Task.batch table op.pending ++ .drain table :: rest)
  termination_by pendingWeight op.pending + Task.weights tasks
  decreasing_by
    · simp [Task.weights, Action.weight]
    · simp [Task.weights, Action.weight]
    · have := op.weight_apply clock table action
      simp only [Task.weights]
      omega
    · simp [Task.weights]
    · rename_i hne
      have hb := Task.weights_batch table op.pending
      have : 0 < op.pending.length := by
        cases hp : op.pending with
        | nil => simp [hp] at hne
        | cons _ _ => simp
      simp only [Task.weights_append, Task.weights, pendingWeight]
      omega

/-- Runs one action from outside, where the side table is the operation's own. -/
def act (clock : Clock) (op : Operation) (action : Action) : Clock × Operation × Outcome Reply :=
  run clock op [.act none action]

/-- Runs all pending scripts. Nothing happens if there is none; otherwise the scripts get
the side table, and the operation loses it. -/
def finalize (clock : Clock) (op : Operation) : Clock × Operation × Outcome Unit :=
  let (clock, op, outcome) := run clock op [.act none .finalize]
  (clock, op, outcome.map fun _ => ())

end Operation
end SpanCapture
