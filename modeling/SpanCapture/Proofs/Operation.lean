import SpanCapture.Operation.Script

/-! What running scripts keeps. A property that single actions keep, and that does not
look at the side table or the pending scripts, is kept by whole runs; so the clock never
goes back. A finalizing run that does not crash leaves nothing pending, and without
pending scripts it does nothing. -/
namespace SpanCapture

/-- An action is not the drain at the end. -/
theorem Task.getLast?_of_act {source : Option RichTable} {action : Action} {rest : List Task}
    {table : RichTable} (last : (.act source action :: rest).getLast? = some (.drain table)) :
    rest.getLast? = some (.drain table) := by
  cases rest with
  | nil => cases last
  | cons next rest => rwa [List.getLast?_cons_cons] at last

namespace Operation

theorem now_le_apply (clock : Clock) (op : Operation) (table : Option RichTable)
    (action : Action) : clock.now ≤ (op.apply clock table action).1.now := by
  cases action with
  | putJson key text =>
      simp only [apply]
      split
      · exact Nat.le_refl _
      · split <;> exact Nat.le_refl _
  | advance nanos => exact Nat.le_add_right _ _
  | _ => exact Nat.le_refl _

/-- Induction over a run: what every action keeps, and the bookkeeping of a finalizing run
as well, holds at the end. -/
theorem run_keeps {P : Clock → Operation → Prop}
    (action : ∀ clock op table action, P clock op →
      P (apply clock op table action).1 (apply clock op table action).2.1)
    (rich : ∀ clock op, P clock op → P clock { op with rich := [] })
    (pending : ∀ clock op, P clock op → P clock { op with pending := [] })
    (clock : Clock) (op : Operation) (tasks : List Task) (h : P clock op) :
    P (run clock op tasks).1 (run clock op tasks).2.1 := by
  fun_induction run clock op tasks with
  | case1 => exact h
  | case2 => exact h
  | case3 clock op _ rest _ ih => exact ih h
  | case4 clock op _ rest _ ih => exact ih (rich clock op h)
  | case5 clock op table a rest => exact action clock op table a h
  | case6 clock op table a rest _ _ _ _ ih => exact ih (action clock op table a h)
  | case7 clock op _ rest _ ih => exact ih h
  | case8 clock op table rest _ ih => exact ih (pending clock op h)

theorem now_le_run (clock : Clock) (op : Operation) (tasks : List Task) :
    clock.now ≤ (run clock op tasks).1.now :=
  run_keeps (P := fun c _ => clock.now ≤ c.now)
    (fun c op table action h => Nat.le_trans h (now_le_apply c op table action))
    (fun _ _ h => h) (fun _ _ h => h) clock op tasks (Nat.le_refl _)

theorem now_le_act (clock : Clock) (op : Operation) (action : Action) :
    clock.now ≤ (op.act clock action).1.now := now_le_run clock op _

theorem now_le_finalize (clock : Clock) (op : Operation) :
    clock.now ≤ (op.finalize clock).1.now := now_le_run clock op _

def Settled (op : Operation) : Prop := op.pending = []

theorem finalize_settled {op : Operation} (h : op.Settled) (clock : Clock) :
    op.finalize clock = (clock, op, .done ()) := by
  have empty : op.pending.isEmpty := List.isEmpty_iff.mpr h
  unfold finalize
  rw [run, if_pos empty, run]
  rfl

/-- With scripts pending, finalizing is the run that drains them. -/
theorem finalize_of_pending {op : Operation} (clock : Clock) (waiting : ¬op.Settled) :
    op.finalize clock =
      let (clock, op, outcome) := run clock { op with rich := [] } [.drain op.rich]
      (clock, op, outcome.map fun _ => ()) := by
  have full : ¬op.pending.isEmpty := fun none => waiting (List.isEmpty_iff.mp none)
  unfold finalize
  rw [run, if_neg full]

/-- A run whose last task is a drain ends with nothing pending, or crashes. -/
theorem pending_run {clock : Clock} {op : Operation} {tasks : List Task} {table : RichTable}
    (last : tasks.getLast? = some (.drain table))
    (done : (run clock op tasks).2.2.isDone) : (run clock op tasks).2.1.Settled := by
  fun_induction run clock op tasks with
  | case1 => cases last
  | case2 => cases done
  | case3 clock op _ rest _ ih => exact ih (Task.getLast?_of_act last) done
  | case4 clock op _ rest _ ih =>
      have later := Task.getLast?_of_act last
      exact ih (by rw [List.getLast?_cons, later]; rfl) done
  | case5 clock op table' a rest _ _ _ empty =>
      cases rest with
      | nil => cases last
      | cons task rest => cases empty
  | case6 clock op table' a rest _ _ _ full ih =>
      exact ih (Task.getLast?_of_act last) done
  | case7 clock op _ rest none ih =>
      cases rest with
      | nil =>
          rw [run]
          exact List.isEmpty_iff.mp none
      | cons task rest => exact ih (by rwa [List.getLast?_cons_cons] at last) done
  | case8 clock op table' rest _ ih =>
      exact ih (by rw [List.getLast?_append, last]; rfl) done

theorem settled_finalize {clock : Clock} {op : Operation}
    (done : (op.finalize clock).2.2.isDone) : (op.finalize clock).2.1.Settled := by
  by_cases settled : op.Settled
  · rwa [finalize_settled settled]
  · rw [finalize_of_pending clock settled] at done ⊢
    dsimp only at done ⊢
    rw [Outcome.isDone_map] at done
    exact pending_run rfl done

/-- Everything but the endpoint mark. -/
def unmarked (op : Operation) : Operation := op.remove endpointKey

theorem erase_insert_self {α : Type} (key : String) (value : α) (entries : Keyed α) :
    (entries.insert key value).erase key = entries.erase key := by
  induction entries with
  | nil => simp [Keyed.insert, Keyed.erase]
  | cons entry rest ih =>
      obtain ⟨k, v⟩ := entry
      unfold Keyed.insert
      split
      · simp [Keyed.erase]
      · split
        · rename_i same
          simp [Keyed.erase, same]
        · rename_i differs
          simpa [Keyed.erase, differs] using ih

theorem unmarked_markEndpoint (on : Bool) (op : Operation) :
    (op.markEndpoint on).unmarked = op.unmarked := by
  cases on with
  | false => simp [markEndpoint, unmarked, remove, Keyed.erase]
  | true => simp [markEndpoint, unmarked, remove, put, erase_insert_self]

theorem hasException_unmarked (op : Operation) : op.unmarked.hasException = op.hasException := by
  have differs : exceptionKey ≠ endpointKey := by decide
  simp only [hasException, unmarked, remove, Keyed.contains, Keyed.find?_erase_of_ne differs]

theorem hasException_put_of_ne {key : String} (apart : exceptionKey ≠ key) (v : Value)
    (op : Operation) : (op.put key v).hasException = op.hasException := by
  rw [hasException, props_put, Keyed.contains, Keyed.find?_insert_of_ne v apart]
  rfl

end Operation
end SpanCapture
