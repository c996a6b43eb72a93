import SpanCapture.Proofs.Operation.Within

/-! What finalizing leaves in the side table. Scripts get the table as it was, and it is gone when
they run; but what they put there themselves stays, and if none is pending nothing is taken away.
So the table is empty after an operation was finalized if the operation was tidy before. -/
namespace SpanCapture

def Action.frugal : Action → Bool
  | .putRich _ _ => false
  | _ => true

namespace Operation

/-- An operation that finalizing rids of its rich objects: a script is pending to take them, or
there are none, and no script leaves others. -/
structure Tidy (op : Operation) : Prop where
  taken : op.Settled → op.rich = []
  frugal : op.Within Action.frugal

instance : DecidablePred Settled := fun op =>
  decidable_of_iff (op.pending.isEmpty = true) List.isEmpty_iff

instance : DecidablePred Tidy := fun op =>
  decidable_of_iff ((op.Settled → op.rich = []) ∧ op.Within Action.frugal)
    ⟨fun h => ⟨h.1, h.2⟩, fun h => ⟨h.taken, h.frugal⟩⟩

section
variable {clock : Clock} {op : Operation}

theorem rich_apply {table : Option RichTable} {action : Action} (frugal : action.frugal) :
    (op.apply clock table action).2.1.rich = op.rich := by
  cases action with
  | putRich key object => cases frugal
  | putJson key text =>
      simp only [Operation.apply]
      split
      · rfl
      · split <;> rfl
  | markEndpoint on => cases on <;> rfl
  | _ => rfl

/-- Where no script waits, finalizing leaves the side table. -/
theorem rich_finalize_settled (settled : op.Settled) (clock : Clock) :
    (op.finalize clock).2.1.rich = op.rich := by
  rw [finalize_settled settled]

/-- Finalizing empties the side table of a tidy operation, also if a script crashes. -/
theorem Tidy.rich_finalize (tidy : op.Tidy) (clock : Clock) :
    (op.finalize clock).2.1.rich = [] := by
  by_cases settled : op.Settled
  · rw [rich_finalize_settled settled, tidy.taken settled]
  · -- The scripts run with the table taken out, and none of them fills it again.
    have emptied : Within Action.frugal { op with rich := [] } := tidy.frugal
    have frugal : ∀ task ∈ [Task.drain op.rich], task.within Action.frugal :=
      List.forall_mem_singleton.mpr rfl
    have drained := Within.run_keeps (P := fun op => op.rich = [])
      (fun _ _ _ _ frugal none => (rich_apply frugal).trans none) (fun _ _ => rfl)
      (fun _ none => none) clock emptied frugal rfl
    rw [finalize_of_pending clock settled]
    exact drained.1

end

end Operation
end SpanCapture
