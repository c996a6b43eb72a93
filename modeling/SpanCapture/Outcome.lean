/-! How a call ends. Callbacks supplied from outside (finalizers, analyzers, strategies,
listeners) may crash instead of answering. A crash carries its message and nothing
else: the state it leaves behind always travels beside the outcome, never inside it. -/
namespace SpanCapture

/-- The end of a call: an answer, or the message of the crash that cut it short. -/
inductive Outcome (α : Type u) where
  | done (answer : α)
  | crashed (message : String)
  deriving Repr, DecidableEq

namespace Outcome

def map {α : Type u} {β : Type v} (f : α → β) : Outcome α → Outcome β
  | .done a => .done (f a)
  | .crashed m => .crashed m

/-- Whether a call came to an end without a crash. -/
def isDone {α : Type u} : Outcome α → Bool
  | .done _ => true
  | .crashed _ => false

@[simp] theorem map_done {α : Type u} {β : Type v} (f : α → β) (a : α) :
    (Outcome.done a).map f = .done (f a) := rfl

@[simp] theorem map_crashed {α : Type u} {β : Type v} (f : α → β) (m : String) :
    (Outcome.crashed m : Outcome α).map f = .crashed m := rfl

@[simp] theorem isDone_done {α : Type u} (a : α) : (Outcome.done a).isDone = true := rfl

@[simp] theorem isDone_crashed {α : Type u} (m : String) :
    (Outcome.crashed m : Outcome α).isDone = false := rfl

@[simp] theorem isDone_map {α : Type u} {β : Type v} (f : α → β) (o : Outcome α) :
    (o.map f).isDone = o.isDone := by
  cases o <;> rfl

theorem isDone_iff {α : Type u} {o : Outcome α} : o.isDone ↔ ∃ answer, o = .done answer := by
  cases o with
  | done answer => simp
  | crashed message => simp

end Outcome
end SpanCapture
