import SpanCapture.Proofs.Delivery.Conservation

/-! Who is offered which trace in a call. A dispatched trace is offered to the registered receivers in
the order they came, up to the first that accepts it. If none does it waits, and the next
registration offers it once to everybody registered by then. -/
namespace SpanCapture
namespace Dispatcher

/-- A trace on its way to the receiver of a handle. The number is that of its dispatch. -/
structure Bid where
  number : Nat
  trace : Trace
  handle : Nat

def Bid.key (bid : Bid) : Nat × Nat := (bid.number, bid.handle)

def place (d : Dispatcher) (bid : Bid) : Verdict × Dispatcher := d.offerTo bid.handle bid.trace

/-- Those of some handles that are asked if one stops at the first that says yes. -/
def upToFirst (yes : Nat → Bool) : List Nat → List Nat
  | [] => []
  | handle :: rest => if yes handle then [handle] else handle :: upToFirst yes rest

def prepared (d : Dispatcher) : Call → Dispatcher
  | .dispatch _ => { d with counts := { d.counts with dispatched := d.counts.dispatched + 1 } }
  | .register receiver =>
    { d with
      receivers := d.receivers ++ [receiver]
      registered := d.registered ++ [d.receivers.length]
      buffer := []
      counts := { d.counts with replayed := d.counts.replayed + d.buffer.length } }
  | .unregister handle => (d.unregister handle).2
  | .clear handle => d.clear handle

/-- The offers to make in a call while certain numbered traces wait: a dispatched trace goes to the
registered receivers up to the first that accepts it, and a registration takes every waiting trace
to all of them. -/
def bids (waiting : List (Nat × Trace)) (m : Moment Dispatcher Call Answer) : List Bid :=
  match m.call with
  | .dispatch trace =>
    (upToFirst (m.before.acceptsAt trace) m.before.registered).map
      (⟨m.before.counts.dispatched, trace, ·⟩)
  | .register _ =>
    waiting.flatMap fun (number, trace) =>
      (m.before.prepared m.call).registered.map (⟨number, trace, ·⟩)
  | _ => []

/-- The offers of a call, each with its verdict. -/
def offers (waiting : List (Nat × Trace)) (m : Moment Dispatcher Call Answer) :
    List (Moment Dispatcher Bid Verdict) :=
  moments place (m.before.prepared m.call) (bids waiting m)

/-- A call makes exactly the offers it should, and no others. -/
structure Offers (waiting : List (Nat × Trace)) (m : Moment Dispatcher Call Answer) : Prop where
  receivers : m.after.receivers =
    (after place (m.before.prepared m.call) (bids waiting m)).receivers
  journal : m.after.journal = (after place (m.before.prepared m.call) (bids waiting m)).journal
  heard : ∀ offer ∈ offers waiting m, ∃ receiver,
    offer.before.receivers[offer.call.handle]? = some receiver ∧
      offer.answer = (receiver.offer offer.call.trace).1
  /-- A dispatched trace is offered until somebody accepts it, and is delivered if somebody does. -/
  dispatched : ∀ trace, m.call = .dispatch trace →
    (offers waiting m).map (·.call.handle) <+: m.before.registered ∧
      (∀ offer ∈ (offers waiting m).dropLast, offer.answer.isAccepted = false) ∧
      (m.answer = .ended .delivered ↔ ∃ offer ∈ offers waiting m, offer.answer.isAccepted) ∧
      (m.answer ≠ .ended .delivered → (offers waiting m).map (·.call.handle) = m.before.registered)
  /-- Every waiting trace is offered to all, the newcomer included, and none waits on. -/
  registered : ∀ receiver, m.call = .register receiver →
    m.answer = .handle m.before.receivers.length ∧
      m.after.registered = m.before.registered ++ [m.before.receivers.length] ∧
      (offers waiting m).map (·.call.key) =
        (waiting.flatMap fun (number, _) => m.after.registered.map (number, ·)) ∧
      m.after.buffer = []

section
variable {d : Dispatcher} {trace : Trace} {handle : Nat} {handles : List Nat}
  {yes yes' : Nat → Bool} {waiting : List (Nat × Trace)} {listed : List Bid}

theorem upToFirst_congr (same : ∀ handle ∈ handles, yes handle = yes' handle) :
    upToFirst yes handles = upToFirst yes' handles := by
  induction handles with
  | nil => rfl
  | cons handle rest ih =>
      obtain ⟨here, later⟩ := List.forall_mem_cons.mp same
      rw [upToFirst, upToFirst, here, ih later]

theorem prefix_upToFirst (yes : Nat → Bool) (handles : List Nat) :
    upToFirst yes handles <+: handles := by
  induction handles with
  | nil => exact List.prefix_rfl
  | cons handle rest ih =>
      rw [upToFirst]
      split
      · exact List.cons_prefix_cons.mpr ⟨rfl, List.nil_prefix⟩
      · exact List.cons_prefix_cons.mpr ⟨rfl, ih⟩

/-- One goes on only past those that say no. -/
theorem refused_of_mem_dropLast (later : handle ∈ (upToFirst yes handles).dropLast) :
    yes handle = false := by
  induction handles with
  | nil => cases later
  | cons first rest ih =>
      rw [upToFirst] at later
      split at later
      · cases later
      · rename_i no
        cases others : upToFirst yes rest with
        | nil =>
            rw [others] at later
            cases later
        | cons next more =>
            rw [others, List.dropLast_cons_cons, ← others] at later
            rcases List.mem_cons.mp later with rfl | later
            · exact Bool.eq_false_iff.mpr no
            · exact ih later

theorem any_upToFirst (yes : Nat → Bool) (handles : List Nat) :
    (upToFirst yes handles).any yes = handles.any yes := by
  induction handles with
  | nil => rfl
  | cons handle rest ih =>
      rw [upToFirst, List.any_cons]
      split
      · rename_i here
        rw [List.any_cons, here, Bool.true_or, Bool.true_or]
      · rw [List.any_cons, ih]

theorem upToFirst_of_none (none : handles.any yes = false) : upToFirst yes handles = handles := by
  induction handles with
  | nil => rfl
  | cons handle rest ih =>
      rw [List.any_cons, Bool.or_eq_false_iff] at none
      rw [upToFirst, none.1, ih none.2]
      rfl

/-- Delivering a trace is offering it to receivers up to the first that accepts it. -/
theorem after_deliver (unique : handles.Nodup) (number : Nat) (trace : Trace) (d : Dispatcher) :
    (d.deliver trace handles).2 =
      after place d ((upToFirst (d.acceptsAt trace) handles).map (⟨number, trace, ·⟩)) := by
  induction handles generalizing d with
  | nil => rfl
  | cons handle rest ih =>
      obtain ⟨absent, later⟩ := List.nodup_cons.mp unique
      have verdict := isAccepted_offerTo handle trace d
      -- The others say what they would have said before this offer.
      have same : ∀ other ∈ rest, (d.offerTo handle trace).2.acceptsAt trace other =
          d.acceptsAt trace other := fun other member =>
        acceptsAt_offerTo fun equal => absent (equal ▸ member)
      unfold deliver
      dsimp only
      rw [verdict, upToFirst]
      cases d.acceptsAt trace handle with
      | true => rfl
      | false =>
          rw [if_neg Bool.false_ne_true, if_neg Bool.false_ne_true, ih later, upToFirst_congr same]
          rfl

theorem offerAll_eq (number : Nat) (trace : Trace) (handles : List Nat) (d : Dispatcher) :
    d.offerAll trace handles = after place d (handles.map (⟨number, trace, ·⟩)) := by
  induction handles generalizing d with
  | nil => rfl
  | cons handle rest ih => exact ih _

theorem replay_eq (waiting : List (Nat × Trace)) (d : Dispatcher) :
    d.replay (waiting.map Prod.snd) =
      after place d
        (waiting.flatMap fun (number, trace) => d.registered.map (⟨number, trace, ·⟩)) := by
  induction waiting generalizing d with
  | nil => rfl
  | cons first rest ih =>
      obtain ⟨number, trace⟩ := first
      rw [List.map_cons, replay, ih, (offered_offerAll trace d.registered d).registered,
        List.flatMap_cons, after_append, offerAll_eq number]

/-- Offers to distinct receivers are judged as they would be now. -/
theorem accepted_place (unique : handles.Nodup) {offer : Moment Dispatcher Bid Verdict}
    (made : offer ∈ moments place d (handles.map (⟨number, trace, ·⟩))) :
    offer.answer.isAccepted = d.acceptsAt trace offer.call.handle := by
  induction handles generalizing d with
  | nil => cases made
  | cons handle rest ih =>
      obtain ⟨absent, later⟩ := List.nodup_cons.mp unique
      rcases List.mem_cons.mp made with rfl | made
      · exact isAccepted_offerTo handle trace d
      · have member : offer.call.handle ∈ rest := by
          obtain ⟨other, inside, same⟩ := List.mem_map.mp (call_mem_of_mem_moments made)
          rwa [← same]
        have apart : handle ≠ offer.call.handle := fun equal => absent (equal ▸ member)
        exact (ih later made).trans (acceptsAt_offerTo apart)

/-- An offer to a receiver that is known gets the verdict of that receiver. -/
theorem heard_place (known : ∀ bid ∈ listed, bid.handle < d.receivers.length)
    {offer : Moment Dispatcher Bid Verdict} (made : offer ∈ moments place d listed) :
    ∃ receiver, offer.before.receivers[offer.call.handle]? = some receiver ∧
      offer.answer = (receiver.offer offer.call.trace).1 := by
  induction listed generalizing d with
  | nil => cases made
  | cons bid rest ih =>
      obtain ⟨here, later⟩ := List.forall_mem_cons.mp known
      rcases List.mem_cons.mp made with rfl | made
      · refine ⟨d.receivers[bid.handle], List.getElem?_eq_getElem here, ?_⟩
        simp only [Moment.at, place, offerTo, List.getElem?_eq_getElem here]
      · refine ih ?_ made
        rwa [place, (offered_offerTo bid.handle bid.trace d).known]

/-- The offers of a call are those it has to make. -/
theorem map_call_offers {α : Type} (read : Bid → α) (waiting : List (Nat × Trace))
    (m : Moment Dispatcher Call Answer) :
    (offers waiting m).map (fun offer => read offer.call) = (bids waiting m).map read := by
  have split : (offers waiting m).map (fun offer => read offer.call) =
      ((offers waiting m).map (·.call)).map read := List.map_map.symm
  rw [split, offers, map_call_moments]

/-- What waits is the buffer, each trace with the number of its dispatch. -/
structure Waits (waiting : List (Nat × Trace)) (d : Dispatcher) : Prop where
  balanced : ∃ capacity refused, Balanced capacity refused d
  inOrder : d.registered.Pairwise (· < ·)
  buffered : waiting.map Prod.snd = d.buffer
  numbered : (waiting.map Prod.fst).Pairwise (· < ·)
  past : ∀ number ∈ waiting.map Prod.fst, number < d.counts.dispatched

theorem Waits.unique (h : Waits waiting d) : d.registered.Nodup := h.inOrder.imp Nat.ne_of_lt

theorem Waits.known (h : Waits waiting d) : ∀ handle ∈ d.registered, handle < d.receivers.length :=
  have ⟨_, _, balanced⟩ := h.balanced
  balanced.known

/-- The dispatch of a trace is counted, and changes receivers by its offers only. -/
theorem dispatch_leaves (trace : Trace) (d : Dispatcher) :
    let counted := d.prepared (.dispatch trace)
    (d.dispatch trace).2.receivers = (counted.deliver trace d.registered).2.receivers ∧
      (d.dispatch trace).2.journal = (counted.deliver trace d.registered).2.journal := by
  intro counted
  unfold dispatch
  dsimp only
  split
  · rename_i d' taken
    have tried : counted.deliver trace d.registered = (true, d') := taken
    rw [tried]
    exact ⟨rfl, rfl⟩
  · rename_i d' refused
    have tried : counted.deliver trace d.registered = (false, d') := refused
    rw [tried]
    unfold keep
    dsimp only
    split <;> exact ⟨rfl, rfl⟩

theorem delivered_iff (unique : d.registered.Nodup) (trace : Trace) :
    (d.dispatch trace).1 = .delivered ↔ d.accepts trace := by
  have ended := dispatches unique trace
  generalize d.dispatch trace = result at ended
  cases ended with
  | delivered accepted => exact iff_of_true rfl accepted
  | buffered rejected => exact iff_of_false nofun (Bool.eq_false_iff.mp rejected)
  | evicted rejected => exact iff_of_false nofun (Bool.eq_false_iff.mp rejected)

theorem Waits.offers_dispatch (h : Waits waiting d) (trace : Trace) :
    Offers waiting (.at Dispatcher.step d (.dispatch trace)) := by
  let m : Moment Dispatcher Call Answer := .at Dispatcher.step d (.dispatch trace)
  let asked := upToFirst (d.acceptsAt trace) d.registered
  have askedUnique : asked.Nodup := (prefix_upToFirst _ _).sublist.nodup h.unique
  have handles : (offers waiting m).map (·.call.handle) = asked :=
    (map_call_offers Bid.handle waiting m).trans (List.map_map.trans (List.map_id _))
  have judged : ∀ offer ∈ offers waiting m,
      offer.answer.isAccepted = d.acceptsAt trace offer.call.handle :=
    fun offer made => accepted_place (d := d.prepared (.dispatch trace)) askedUnique made
  have delivered : m.answer = .ended .delivered ↔ d.accepts trace :=
    (Answer.ended.injEq _ _).to_iff.trans (delivered_iff h.unique trace)
  obtain ⟨receivers, journal⟩ := dispatch_leaves trace d
  rw [after_deliver h.unique d.counts.dispatched] at receivers journal
  refine ⟨receivers, journal, fun offer made => ?_, ?_, nofun⟩
  · refine heard_place ?_ made
    intro bid listed
    obtain ⟨handle, member, rfl⟩ := List.mem_map.mp listed
    exact h.known handle ((prefix_upToFirst _ _).subset member)
  · rintro _ ⟨⟩
    refine ⟨handles ▸ prefix_upToFirst _ _, ?_, ?_, ?_⟩
    · intro offer member
      rw [judged offer (List.dropLast_subset _ member)]
      have early : offer.call.handle ∈ asked.dropLast := by
        rw [← handles, ← List.map_dropLast]
        exact List.mem_map_of_mem member
      exact refused_of_mem_dropLast early
    · rw [delivered, accepts, ← any_upToFirst]
      change asked.any _ ↔ _
      rw [← handles, List.any_map, List.any_eq_true]
      refine exists_congr fun offer => and_congr_right fun made => ?_
      rw [judged offer made]
      rfl
    · intro refused
      rw [handles]
      exact upToFirst_of_none (Bool.eq_false_iff.mpr (mt delivered.mpr refused))

theorem Waits.offers_register (h : Waits waiting d) (receiver : Receiver) :
    Offers waiting (.at Dispatcher.step d (.register receiver)) := by
  have replayed : (d.register receiver).2 =
      after place (d.prepared (.register receiver))
        (bids waiting (.at Dispatcher.step d (.register receiver))) := by
    change (d.prepared (.register receiver)).replay d.buffer = _
    rw [← h.buffered, replay_eq]
    rfl
  have still := (offered_register receiver d).registered
  refine ⟨congrArg (·.receivers) replayed, congrArg (·.journal) replayed, fun offer made => ?_,
    nofun, ?_⟩
  · refine heard_place ?_ made
    intro bid listed
    obtain ⟨⟨number, trace⟩, -, inside⟩ := List.mem_flatMap.mp listed
    obtain ⟨handle, member, rfl⟩ := List.mem_map.mp inside
    change handle < (d.receivers ++ [receiver]).length
    rw [List.length_append]
    rcases List.mem_append.mp member with before | new
    · exact Nat.lt_succ_of_lt (h.known handle before)
    · rw [List.mem_singleton.mp new]
      exact Nat.lt_succ_self _
  · rintro _ ⟨⟩
    refine ⟨rfl, still, ?_, buffer_register receiver d⟩
    change (Dispatcher.offers waiting _).map (·.call.key) =
      waiting.flatMap fun (number, _) => (d.register receiver).2.registered.map (number, ·)
    rw [map_call_offers Bid.key, still]
    exact List.map_flatMap.trans (congrArg (waiting.flatMap ·) (funext fun _ => List.map_map))

theorem Offers.of_none {m : Moment Dispatcher Call Answer} (none : bids waiting m = [])
    (prepares : m.after = m.before.prepared m.call) (noDispatch : ∀ trace, m.call ≠ .dispatch trace)
    (noRegister : ∀ receiver, m.call ≠ .register receiver) : Offers waiting m := by
  have nobody : Dispatcher.offers waiting m = [] := by
    rw [Dispatcher.offers, none]
    rfl
  refine ⟨by rw [none, prepares]; rfl, by rw [none, prepares]; rfl, ?_, ?_, ?_⟩
  · rw [nobody]
    exact List.forall_mem_nil _
  · exact fun trace isDispatch => absurd isDispatch (noDispatch trace)
  · exact fun receiver isRegister => absurd isRegister (noRegister receiver)

/-- Every call makes the offers it should. -/
theorem Waits.offers (h : Waits waiting d) (call : Call) :
    Offers waiting (.at Dispatcher.step d call) := by
  cases call with
  | dispatch trace => exact h.offers_dispatch trace
  | register receiver => exact h.offers_register receiver
  | unregister handle => exact .of_none rfl rfl nofun nofun
  | clear handle => exact .of_none rfl rfl nofun nofun

/-- What a call offers is the trace dispatched now, or one that waits when a receiver comes. -/
theorem number_of_offer {m : Moment Dispatcher Call Answer}
    {offer : Moment Dispatcher Bid Verdict} (made : offer ∈ Dispatcher.offers waiting m) :
    (∃ trace, m.call = .dispatch trace ∧ offer.call.number = m.before.counts.dispatched) ∨
      ∃ receiver, m.call = .register receiver ∧ offer.call.number ∈ waiting.map Prod.fst := by
  have listed := call_mem_of_mem_moments made
  unfold bids at listed
  split at listed
  · rename_i trace isDispatch
    obtain ⟨handle, -, same⟩ := List.mem_map.mp listed
    exact .inl ⟨trace, isDispatch, by rw [← same]⟩
  · rename_i receiver isRegister
    obtain ⟨⟨number, trace⟩, waits, inside⟩ := List.mem_flatMap.mp listed
    obtain ⟨handle, -, same⟩ := List.mem_map.mp inside
    exact .inr ⟨receiver, isRegister, by rw [← same]; exact List.mem_map_of_mem waits⟩
  · cases listed

end
end Dispatcher
end SpanCapture
