import SpanCapture.Proofs.Delivery.Conservation

/-! Willing receivers: they accept whatever they are offered, whatever they were offered before. As
long as one is registered, every trace is delivered, though others may decline, fail or crash; and
one is registered still. -/
namespace SpanCapture

/-- What becomes of a receiver that is offered traces one after another. -/
def Receiver.offerEach (receiver : Receiver) (traces : List Trace) : Receiver :=
  traces.foldl (fun receiver trace => (receiver.offer trace).2) receiver

def Receiver.Willing (receiver : Receiver) : Prop :=
  ∀ before trace, ((receiver.offerEach before).offer trace).1.isAccepted

theorem Receiver.Willing.offer {receiver : Receiver} (h : receiver.Willing) (trace : Trace) :
    (receiver.offer trace).1.isAccepted ∧ (receiver.offer trace).2.Willing :=
  ⟨h [] trace, fun before => h (trace :: before)⟩

theorem Receiver.willing_collecting (label : String) (kept offered : List Trace) :
    Receiver.Willing ⟨label, .collecting kept, offered⟩ := by
  intro before trace
  induction before generalizing kept offered with
  | nil => rfl
  | cons first rest ih => exact ih (kept ++ [first]) (offered ++ [first])

namespace Dispatcher

def WillingAt (d : Dispatcher) (handle : Nat) : Prop :=
  ∃ receiver, d.receivers[handle]? = some receiver ∧ receiver.Willing

def Open (d : Dispatcher) : Prop := ∃ handle ∈ d.registered, d.WillingAt handle

/-- From one state to another these traces were dispatched, nothing else happened, and every one of
them was delivered. -/
def Delivers (d : Dispatcher) (traces : List Trace) (d' : Dispatcher) : Prop :=
  ∃ history, Run Dispatcher.step (·.answer = .ended .delivered) d history d' ∧
    history.map (·.call) = traces.map .dispatch

section
variable {d d' : Dispatcher} {traces : List Trace} {handle : Nat}

theorem WillingAt.offerTo (h : d.WillingAt handle) (other : Nat) (trace : Trace) :
    (d.offerTo other trace).2.WillingAt handle := by
  obtain ⟨receiver, known, willing⟩ := h
  unfold Dispatcher.offerTo
  split
  · exact ⟨receiver, known, willing⟩
  · rename_i asked there
    by_cases same : other = handle
    · subst same
      rw [known] at there
      cases there
      have inside := (List.getElem?_eq_some_iff.mp known).1
      exact ⟨_, List.getElem?_set_self inside, (willing.offer trace).2⟩
    · exact ⟨receiver, (List.getElem?_set_ne same).trans known, willing⟩

theorem WillingAt.accepts (h : d.WillingAt handle) (trace : Trace) :
    (d.offerTo handle trace).1.isAccepted := by
  obtain ⟨receiver, known, willing⟩ := h
  rw [isAccepted_offerTo, acceptsAt, known]
  exact (willing.offer trace).1

/-- Whoever is asked before, the willing receiver is asked at last. -/
theorem WillingAt.deliver (h : d.WillingAt handle) {handles : List Nat} (asked : handle ∈ handles)
    (trace : Trace) :
    (d.deliver trace handles).1 = true ∧ (d.deliver trace handles).2.WillingAt handle := by
  induction handles generalizing d with
  | nil => cases asked
  | cons first rest ih =>
      have still := h.offerTo first trace
      unfold Dispatcher.deliver
      dsimp only
      split
      · exact ⟨rfl, still⟩
      · rename_i refused
        have later : handle ∈ rest := by
          rcases List.mem_cons.mp asked with rfl | later
          · exact absurd (h.accepts trace) refused
          · exact later
        exact ih still later

theorem Open.dispatch (h : d.Open) (trace : Trace) :
    (d.dispatch trace).1 = .delivered ∧ (d.dispatch trace).2.Open := by
  obtain ⟨handle, asked, willing⟩ := h
  let counted := { d with counts := { d.counts with dispatched := d.counts.dispatched + 1 } }
  have ready : counted.WillingAt handle := willing
  obtain ⟨taken, still⟩ := ready.deliver asked trace
  have kept := (offered_deliver trace counted.registered counted).registered
  unfold Dispatcher.dispatch
  dsimp only
  split
  · rename_i d' delivered
    have tried : counted.deliver trace counted.registered = (true, d') := delivered
    rw [tried] at still kept
    exact ⟨rfl, handle, kept ▸ asked, still⟩
  · rename_i d' refused
    have tried : counted.deliver trace counted.registered = (false, d') := refused
    rw [tried] at taken
    cases taken

theorem delivers_nothing (d : Dispatcher) : d.Delivers [] d := ⟨[], .start, rfl⟩

theorem Delivers.dispatch (h : d.Delivers traces d') (willing : d'.Open) (trace : Trace) :
    d.Delivers (traces ++ [trace]) (d'.dispatch trace).2 := by
  obtain ⟨history, run, calls⟩ := h
  have delivered : (Dispatcher.step d' (.dispatch trace)).1 = .ended .delivered :=
    congrArg Answer.ended (willing.dispatch trace).1
  refine ⟨_, run.next (Call.dispatch trace) delivered, ?_⟩
  rw [List.map_append, List.map_append, calls]
  rfl

end

end Dispatcher
end SpanCapture
