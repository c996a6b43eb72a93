import SpanCapture.Proofs.Operation

/-! Scripts that keep within what is allowed: each action is allowed, and so is all in the scripts
it defers. Such scripts defer nothing else, so whatever allowed actions keep, a whole run of them
keeps, the scripts included that it comes to on the way. -/
namespace SpanCapture

namespace Action

mutual

/-- Whether an action is allowed, and so is all it defers. -/
def within (allowed : Action → Bool) : Action → Bool
  | .defer script => allowed (.defer script) && withinAll allowed script
  | action => allowed action

def withinAll (allowed : Action → Bool) : List Action → Bool
  | [] => true
  | action :: rest => action.within allowed && withinAll allowed rest

end

variable {allowed : Action → Bool}

theorem withinAll_iff {script : List Action} :
    withinAll allowed script ↔ ∀ action ∈ script, action.within allowed := by
  induction script with
  | nil => simp [withinAll]
  | cons action rest ih => simp [withinAll, ih]

theorem allowed_of_within {action : Action} (kept : action.within allowed) : allowed action := by
  cases action with
  | defer script =>
      rw [within, Bool.and_eq_true] at kept
      exact kept.1
  | _ => exact kept

end Action

def Task.within (allowed : Action → Bool) : Task → Bool
  | .act _ action => action.within allowed
  | .drain _ => true

namespace Operation

def Within (allowed : Action → Bool) (op : Operation) : Prop :=
  ∀ script ∈ op.pending, Action.withinAll allowed script

instance (allowed : Action → Bool) (op : Operation) : Decidable (op.Within allowed) :=
  inferInstanceAs (Decidable (∀ script ∈ op.pending, _ = true))

section
variable {allowed : Action → Bool} {clock : Clock} {op : Operation}

theorem Settled.within (settled : op.Settled) : op.Within allowed := by
  intro script waiting
  rw [settled] at waiting
  cases waiting

theorem Within.apply {table : Option RichTable} {action : Action} (h : op.Within allowed)
    (kept : action.within allowed) : (op.apply clock table action).2.1.Within allowed := by
  cases action with
  | defer script =>
      rw [Action.within, Bool.and_eq_true] at kept
      exact List.forall_mem_append.mpr ⟨h, List.forall_mem_singleton.mpr kept.2⟩
  | putJson other text =>
      simp only [Operation.apply]
      split
      · exact h
      · split <;> exact h
  | markEndpoint on => cases on <;> exact h
  | _ => exact h

theorem within_batch {table : RichTable} (h : op.Within allowed) :
    ∀ task ∈ Task.batch table op.pending, task.within allowed := by
  intro task member
  obtain ⟨script, waiting, inside⟩ := List.mem_flatMap.mp member
  obtain ⟨action, part, rfl⟩ := List.mem_map.mp inside
  exact Action.withinAll_iff.mp (h script waiting) action part

/-- What allowed actions keep, a run within what is allowed keeps. -/
theorem Within.run_keeps {P : Operation → Prop}
    (action : ∀ clock op table action, allowed action → P op →
      P (Operation.apply clock op table action).2.1)
    (rich : ∀ op, P op → P { op with rich := [] })
    (pending : ∀ op, P op → P { op with pending := [] })
    (clock : Clock) {op : Operation} {tasks : List Task} (waiting : op.Within allowed)
    (kept : ∀ task ∈ tasks, task.within allowed) (h : P op) :
    P (run clock op tasks).2.1 ∧ (run clock op tasks).2.1.Within allowed := by
  fun_induction Operation.run clock op tasks with
  | case1 => exact ⟨h, waiting⟩
  | case2 => exact ⟨h, waiting⟩
  | case3 clock op _ rest _ ih => exact ih waiting (List.forall_mem_cons.mp kept).2 h
  | case4 clock op _ rest _ ih =>
      have later := (List.forall_mem_cons.mp kept).2
      exact ih waiting (List.forall_mem_cons.mpr ⟨rfl, later⟩) (rich op h)
  | case5 clock op table first rest =>
      have here : first.within allowed := (List.forall_mem_cons.mp kept).1
      exact ⟨action clock op table first (Action.allowed_of_within here) h, waiting.apply here⟩
  | case6 clock op table first rest _ _ _ _ ih =>
      obtain ⟨here, later⟩ := List.forall_mem_cons.mp kept
      exact ih (waiting.apply here) later
        (action clock op table first (Action.allowed_of_within here) h)
  | case7 clock op _ rest _ ih => exact ih waiting (List.forall_mem_cons.mp kept).2 h
  | case8 clock op table rest _ ih =>
      -- What was pending is among the tasks now.
      exact ih (Settled.within rfl) (List.forall_mem_append.mpr ⟨within_batch waiting, kept⟩)
        (pending op h)

end

end Operation
end SpanCapture
