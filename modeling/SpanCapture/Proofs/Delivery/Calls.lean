import SpanCapture.Delivery.Dispatcher
import SpanCapture.Proofs.Run

/-! Calls on a dispatcher. Offers go to receivers and leave the buffer alone, so what waits in
it has been dispatched. -/
namespace SpanCapture
namespace Dispatcher

inductive Call where
  | dispatch (trace : Trace)
  | register (receiver : Receiver)
  | unregister (handle : Nat)
  | clear (handle : Nat)

inductive Answer where
  | ended (result : DispatchEnd)
  | handle (handle : Nat)
  | flag (done : Bool)
  | nothing

def step (d : Dispatcher) : Call → Answer × Dispatcher
  | .dispatch trace =>
    let (result, d) := d.dispatch trace
    (.ended result, d)
  | .register receiver =>
    let (handle, d) := d.register receiver
    (.handle handle, d)
  | .unregister handle =>
    let (done, d) := d.unregister handle
    (.flag done, d)
  | .clear handle => (.nothing, d.clear handle)

theorem buffer_offerTo (handle : Nat) (trace : Trace) (d : Dispatcher) :
    (d.offerTo handle trace).2.buffer = d.buffer := by
  unfold offerTo
  split <;> rfl

theorem buffer_deliver (trace : Trace) (handles : List Nat) (d : Dispatcher) :
    (d.deliver trace handles).2.buffer = d.buffer := by
  induction handles generalizing d with
  | nil => rfl
  | cons handle rest ih =>
      unfold deliver
      dsimp only
      split
      · exact buffer_offerTo handle trace d
      · rw [ih, buffer_offerTo]

theorem buffer_offerAll (trace : Trace) (handles : List Nat) (d : Dispatcher) :
    (d.offerAll trace handles).buffer = d.buffer := by
  induction handles generalizing d with
  | nil => rfl
  | cons handle rest ih => rw [offerAll, ih, buffer_offerTo]

theorem buffer_replay (traces : List Trace) (d : Dispatcher) :
    (d.replay traces).buffer = d.buffer := by
  induction traces generalizing d with
  | nil => rfl
  | cons trace rest ih => rw [replay, ih, buffer_offerAll]

theorem buffer_register (receiver : Receiver) (d : Dispatcher) :
    (d.register receiver).2.buffer = [] := buffer_replay _ _

theorem mem_buffer_keep {trace t : Trace} {d : Dispatcher} (h : t ∈ (d.keep trace).2.buffer) :
    t ∈ d.buffer ∨ t = trace := by
  have whole : t ∈ d.buffer ++ [trace] := by
    unfold keep at h
    dsimp only at h
    split at h
    · exact List.mem_of_mem_tail h
    · exact h
  exact (List.mem_append.mp whole).imp_right List.mem_singleton.mp

theorem mem_buffer_dispatch {trace t : Trace} {d : Dispatcher}
    (h : t ∈ (d.dispatch trace).2.buffer) : t ∈ d.buffer ∨ t = trace := by
  have same := buffer_deliver trace d.registered
    { d with counts := { d.counts with dispatched := d.counts.dispatched + 1 } }
  unfold dispatch at h
  dsimp only at h
  split at h
  · rename_i d' delivered
    rw [delivered] at same
    exact .inl (same ▸ h)
  · rename_i d' refused
    rw [refused] at same
    exact (mem_buffer_keep h).imp_left fun waiting => same ▸ waiting

/-- What waits after a call waited before or has just been dispatched. -/
theorem mem_buffer_step {t : Trace} {d : Dispatcher} {call : Call}
    (h : t ∈ (d.step call).2.buffer) : t ∈ d.buffer ∨ call = .dispatch t := by
  cases call with
  | dispatch trace => exact (mem_buffer_dispatch h).imp_right fun same => congrArg Call.dispatch same.symm
  | register receiver =>
      change t ∈ (d.register receiver).2.buffer at h
      rw [buffer_register] at h
      cases h
  | unregister handle => exact .inl h
  | clear handle => exact .inl h

/-- What is true of all that waits and of all that is handed over is true of what waits later. -/
theorem forall_mem_buffer_after {P : Trace → Prop} {d : Dispatcher} {calls : List Call}
    (waiting : ∀ trace ∈ d.buffer, P trace) (handed : ∀ trace, .dispatch trace ∈ calls → P trace) :
    ∀ trace ∈ (after step d calls).buffer, P trace := by
  have keeps (d : Dispatcher) (call : Call) (waiting : ∀ trace ∈ d.buffer, P trace)
      (asked : call ∈ calls) : ∀ trace ∈ (d.step call).2.buffer, P trace := by
    intro trace member
    rcases mem_buffer_step member with before | rfl
    · exact waiting trace before
    · exact handed trace asked
  exact after_invariant (P := fun d : Dispatcher => ∀ trace ∈ d.buffer, P trace) waiting keeps
    fun _ member => member

end Dispatcher
end SpanCapture
