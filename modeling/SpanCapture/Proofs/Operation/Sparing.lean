import SpanCapture.Proofs.Operation.Within

/-! Scripts that spare a property: no action of theirs writes it or removes it, and they defer no
script that does. Whatever else they do, the property is the same after a whole run. -/
namespace SpanCapture

namespace Action

def key? : Action → Option String
  | .put key _ | .putJson key _ | .increment key | .remove key => some key
  | .rich _ target | .pending target => some target
  | .fail _ => some Operation.exceptionKey
  | .markEndpoint _ => some Operation.endpointKey
  | _ => none

mutual

/-- Whether an action leaves a property alone, and so does all it defers. -/
def spares (key : String) : Action → Bool
  | .defer script => sparesAll key script
  | action => action.key? != some key

def sparesAll (key : String) : List Action → Bool
  | [] => true
  | action :: rest => action.spares key && sparesAll key rest

end

def foreign (key : String) (action : Action) : Bool := action.key? != some key

mutual

theorem spares_eq_within (key : String) :
    ∀ action : Action, action.spares key = action.within (foreign key)
  | .defer script => (sparesAll_eq_withinAll key script).trans (Bool.true_and _).symm
  | .put .. | .putJson .. | .increment _ | .get _ | .remove _ | .label _ | .rich .. | .putRich ..
  | .fail _ | .markEndpoint _ | .advance _ | .pending _ | .finalize | .crash _ | .state => rfl

theorem sparesAll_eq_withinAll (key : String) :
    ∀ script : List Action, sparesAll key script = withinAll (foreign key) script
  | [] => rfl
  | action :: rest => by
    rw [sparesAll, withinAll, spares_eq_within key action, sparesAll_eq_withinAll key rest]

end

end Action

namespace Operation

def Spares (key : String) (op : Operation) : Prop :=
  ∀ script ∈ op.pending, Action.sparesAll key script

instance (key : String) (op : Operation) : Decidable (op.Spares key) :=
  inferInstanceAs (Decidable (∀ script ∈ op.pending, _ = true))

section
variable {key : String} {clock : Clock} {op : Operation}

theorem Spares.markEndpoint {on : Bool} (h : op.Spares key) : (op.markEndpoint on).Spares key := by
  cases on <;> exact h

theorem isEndpointSource_congr {a b : Operation}
    (same : a.props.find? endpointKey = b.props.find? endpointKey) :
    a.isEndpointSource = b.isEndpointSource := by
  simp only [isEndpointSource, Attributes.getBool?, same]

theorem find?_put_of_ne {other : String} (apart : some other ≠ some key) (value : Value)
    (op : Operation) : (op.put other value).props.find? key = op.props.find? key :=
  Keyed.find?_insert_of_ne value (fun same => apart (congrArg some same.symm)) op.props

theorem find?_remove_of_ne {other : String} (apart : some other ≠ some key) (op : Operation) :
    (op.remove other).props.find? key = op.props.find? key :=
  Keyed.find?_erase_of_ne (fun same => apart (congrArg some same.symm)) op.props

/-- An action leaves every property but its own. -/
theorem find?_apply {table : Option RichTable} {action : Action} (apart : action.key? ≠ some key) :
    (op.apply clock table action).2.1.props.find? key = op.props.find? key := by
  cases action with
  | put other value => exact find?_put_of_ne apart _ op
  | increment other => exact find?_put_of_ne apart _ op
  | rich source target => exact find?_put_of_ne apart _ op
  | fail message => exact find?_put_of_ne apart _ op
  | pending target => exact find?_put_of_ne apart _ op
  | remove other => exact find?_remove_of_ne apart op
  | markEndpoint on =>
      cases on with
      | true => exact find?_put_of_ne apart _ op
      | false => exact find?_remove_of_ne apart op
  | putJson other text =>
      simp only [apply]
      split
      · rfl
      · split
        · rename_i document _ _ props stored
          unfold Attributes.putJson at stored
          cases read : Value.ofJson other document with
          | error failure =>
              rw [read] at stored
              cases stored
          | ok value =>
              rw [read] at stored
              cases stored
              exact find?_put_of_ne apart value op
        · rfl
  | _ => rfl

theorem Spares.within (h : op.Spares key) : op.Within (Action.foreign key) := fun script waiting =>
  (Action.sparesAll_eq_withinAll key script).symm.trans (h script waiting)

/-- A run of sparing tasks leaves the property, and only sparing scripts pending. -/
theorem Spares.run {tasks : List Task} (h : op.Spares key)
    (spared : ∀ task ∈ tasks, task.within (Action.foreign key)) :
    (run clock op tasks).2.1.props.find? key = op.props.find? key ∧
      (run clock op tasks).2.1.Spares key := by
  obtain ⟨same, waiting⟩ := Within.run_keeps
    (P := fun later => later.props.find? key = op.props.find? key)
    (fun _ _ _ _ allowed before => (find?_apply (by simpa [Action.foreign] using allowed)).trans before)
    (fun _ before => before) (fun _ before => before) clock h.within spared rfl
  exact ⟨same, fun script left =>
    (Action.sparesAll_eq_withinAll key script).trans (waiting script left)⟩

theorem Spares.finalize (h : op.Spares key) :
    (op.finalize clock).2.1.props.find? key = op.props.find? key ∧
      (op.finalize clock).2.1.Spares key :=
  h.run fun task member => by
    rw [List.mem_singleton.mp member]
    rfl

theorem Spares.act {action : Action} (h : op.Spares key) (spared : action.spares key) :
    (op.act clock action).2.1.props.find? key = op.props.find? key ∧
      (op.act clock action).2.1.Spares key :=
  h.run fun task member => by
    rw [List.mem_singleton.mp member]
    exact (Action.spares_eq_within key action).symm.trans spared

end

end Operation
end SpanCapture
