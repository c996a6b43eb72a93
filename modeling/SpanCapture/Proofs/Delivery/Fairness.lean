import SpanCapture.Proofs.Delivery.Offers

/-! How often a receiver is asked. Traces are told apart by the number of their dispatch. Only one that
waits is offered again, to receivers that refused it or have come since, and it waits no longer
then. So no receiver is offered a trace more than twice, and none is offered it again after
accepting it. -/
namespace SpanCapture
namespace Dispatcher

/-- What is known of a run from its calls and answers: the receivers registered, the traces that wait,
and the offers made. -/
structure Book where
  registered : List Nat := []
  waiting : List (Nat × Trace) := []
  made : List (Moment Dispatcher Bid Verdict) := []

def noteRegistered (registered : List Nat) (m : Moment Dispatcher Call Answer) : List Nat :=
  match m.call, m.answer with
  | .register _, .handle handle => registered ++ [handle]
  | .unregister handle, _ => registered.filter (· != handle)
  | _, _ => registered

def noteWaiting (waiting : List (Nat × Trace)) (m : Moment Dispatcher Call Answer) :
    List (Nat × Trace) :=
  match m.call, m.answer with
  | .dispatch trace, .ended .buffered => waiting ++ [(m.before.counts.dispatched, trace)]
  | .dispatch trace, .ended .evicted => (waiting ++ [(m.before.counts.dispatched, trace)]).tail
  | .register _, _ => []
  | _, _ => waiting

def noteOffers (book : Book) (m : Moment Dispatcher Call Answer) : Book where
  registered := noteRegistered book.registered m
  waiting := noteWaiting book.waiting m
  made := book.made ++ offers book.waiting m

def verdicts (number handle : Nat) (made : List (Moment Dispatcher Bid Verdict)) : List Verdict :=
  (made.filter fun offer => offer.call.number == number && offer.call.handle == handle).map
    (·.answer)

/-- Asked twice at most, and not again after accepting. -/
def Spared (answers : List Verdict) : Prop :=
  answers.length ≤ 2 ∧ ∀ verdict ∈ answers.dropLast, verdict.isAccepted = false

section
variable {d : Dispatcher} {number handle : Nat} {waiting : List (Nat × Trace)} {book : Book}

theorem length_verdicts (number handle : Nat) (d : Dispatcher) (listed : List Bid) :
    (verdicts number handle (moments place d listed)).length =
      (listed.map Bid.key).count (number, handle) := by
  have keys : listed.map Bid.key = (moments place d listed).map fun offer => offer.call.key := by
    rw [← Function.comp_def, ← List.map_map, map_call_moments]
  rw [verdicts, List.length_map, ← List.countP_eq_length_filter, keys, List.count, List.countP_map]
  refine List.countP_congr fun offer _ => ?_
  simp [Bid.key]

theorem verdicts_append (number handle : Nat) (earlier later : List (Moment Dispatcher Bid Verdict)) :
    verdicts number handle (earlier ++ later) =
      verdicts number handle earlier ++ verdicts number handle later := by
  rw [verdicts, List.filter_append, List.map_append]
  rfl

/-- One answer more after one that may have been a refusal. -/
theorem spared_append {earlier later : List Verdict} (once : earlier.length ≤ 1)
    (refused : ∀ verdict ∈ earlier, verdict.isAccepted = false) (next : later.length ≤ 1) :
    Spared (earlier ++ later) := by
  refine ⟨by rw [List.length_append]; omega, ?_⟩
  intro verdict member
  match later, next with
  | [], _ =>
      rw [List.append_nil] at member
      exact refused verdict ((List.dropLast_sublist _).subset member)
  | [last], _ =>
      rw [List.dropLast_concat] at member
      exact refused verdict member

theorem verdicts_of_absent {made : List (Moment Dispatcher Bid Verdict)}
    (absent : ∀ offer ∈ made, offer.call.number ≠ number) : verdicts number handle made = [] := by
  rw [verdicts, List.filter_eq_nil_iff.mpr, List.map_nil]
  intro offer member both
  exact absent offer member (beq_iff_eq.mp (Bool.and_eq_true_iff.mp both).1)

theorem mem_verdicts {made : List (Moment Dispatcher Bid Verdict)} {verdict : Verdict}
    (member : verdict ∈ verdicts number handle made) : ∃ offer ∈ made, offer.answer = verdict := by
  obtain ⟨offer, kept, same⟩ := List.mem_map.mp member
  exact ⟨offer, (List.mem_filter.mp kept).1, same⟩

/-- Only a dispatched trace that nobody took joins those that wait. -/
theorem mem_noteWaiting {m : Moment Dispatcher Call Answer}
    (member : number ∈ (noteWaiting waiting m).map Prod.fst) :
    (number ∈ waiting.map Prod.fst ∧ ∀ receiver, m.call ≠ .register receiver) ∨
      ∃ trace, m.call = .dispatch trace ∧ m.answer ≠ .ended .delivered ∧
        number = m.before.counts.dispatched := by
  unfold noteWaiting at member
  split at member
  · rename_i trace isDispatch buffered
    rw [List.map_append] at member
    refine (List.mem_append.mp member).imp (fun before => ⟨before, ?_⟩) fun new => ?_
    · exact fun receiver isRegister => by rw [isDispatch] at isRegister; cases isRegister
    · exact ⟨trace, isDispatch, by rw [buffered]; nofun, List.mem_singleton.mp new⟩
  · rename_i trace isDispatch evicted
    rw [List.map_tail, List.map_append] at member
    refine (List.mem_append.mp (List.mem_of_mem_tail member)).imp (fun before => ⟨before, ?_⟩)
      fun new => ?_
    · exact fun receiver isRegister => by rw [isDispatch] at isRegister; cases isRegister
    · exact ⟨trace, isDispatch, by rw [evicted]; nofun, List.mem_singleton.mp new⟩
  · cases member
  · rename_i noRegister _ _
    exact .inl ⟨member, noRegister⟩

theorem registered_step (unique : d.registered.Nodup) (call : Call) :
    (step d call).2.registered = noteRegistered d.registered (.at step d call) := by
  cases call with
  | dispatch trace =>
      have ended := dispatches unique trace
      change (d.dispatch trace).2.registered = d.registered
      generalize d.dispatch trace = result at ended
      cases ended with
      | delivered _ kept => exact kept.registered
      | buffered _ _ kept => exact kept.registered
      | evicted _ _ kept => exact kept.registered
  | register receiver => exact (offered_register receiver d).registered
  | unregister => rfl
  | clear => rfl

theorem Waits.inOrder_step (h : Waits waiting d) (call : Call) :
    (step d call).2.registered.Pairwise (· < ·) := by
  rw [registered_step h.unique call]
  cases call with
  | dispatch trace => exact h.inOrder
  | register receiver =>
      refine List.pairwise_append.mpr ⟨h.inOrder, List.pairwise_singleton _ _, ?_⟩
      intro handle member other new
      rw [List.mem_singleton.mp new]
      exact h.known handle member
  | unregister handle => exact h.inOrder.filter _
  | clear handle => exact h.inOrder

theorem Waits.step (h : Waits waiting d) (call : Call) :
    Waits (noteWaiting waiting (.at step d call)) (Dispatcher.step d call).2 := by
  obtain ⟨capacity, refused, balanced⟩ := h.balanced
  have balanced : ∃ capacity refused, Balanced capacity refused (Dispatcher.step d call).2 :=
    ⟨capacity, _, balanced.step call⟩
  have inOrder := h.inOrder_step call
  cases call with
  | dispatch trace =>
      have ended := dispatches h.unique trace
      change ∃ capacity refused, Balanced capacity refused (d.dispatch trace).2 at balanced
      change List.Pairwise _ (d.dispatch trace).2.registered at inOrder
      change Waits (noteWaiting waiting
        ⟨d, .dispatch trace, .ended (d.dispatch trace).1, (d.dispatch trace).2⟩) (d.dispatch trace).2
      generalize d.dispatch trace = result at ended balanced inOrder
      have numbered : ((waiting ++ [(d.counts.dispatched, trace)]).map Prod.fst).Pairwise (· < ·) := by
        rw [List.map_append]
        refine List.pairwise_append.mpr ⟨h.numbered, List.pairwise_singleton _ _, ?_⟩
        intro number member last isLast
        rw [List.mem_singleton.mp isLast]
        exact h.past number member
      have past : ∀ number ∈ (waiting ++ [(d.counts.dispatched, trace)]).map Prod.fst,
          number < d.counts.dispatched + 1 := by
        rw [List.map_append, List.forall_mem_append]
        refine ⟨fun number member => Nat.lt_succ_of_lt (h.past number member), ?_⟩
        intro number isLast
        rw [List.mem_singleton.mp isLast]
        exact Nat.lt_succ_self _
      cases ended with
      | delivered accepted kept buffer counts =>
          change Waits waiting _
          refine ⟨balanced, inOrder, buffer ▸ h.buffered, h.numbered, ?_⟩
          rw [counts]
          exact fun number member => Nat.lt_succ_of_lt (h.past number member)
      | buffered rejected room kept buffer counts =>
          change Waits (waiting ++ [(d.counts.dispatched, trace)]) _
          refine ⟨balanced, inOrder, ?_, numbered, counts ▸ past⟩
          rw [buffer, List.map_append, h.buffered]
          rfl
      | evicted rejected full kept buffer counts =>
          change Waits (waiting ++ [(d.counts.dispatched, trace)]).tail _
          refine ⟨balanced, inOrder, ?_, ?_, ?_⟩
          · rw [buffer, List.map_tail, List.map_append, h.buffered]
            rfl
          · rw [List.map_tail]
            exact numbered.tail
          · rw [counts, List.map_tail]
            exact fun number member => past number (List.mem_of_mem_tail member)
  | register receiver => exact ⟨balanced, inOrder, (buffer_register receiver d).symm, .nil, nofun⟩
  | unregister handle => exact ⟨balanced, inOrder, h.buffered, h.numbered, h.past⟩
  | clear handle => exact ⟨balanced, inOrder, h.buffered, h.numbered, h.past⟩

theorem dispatched_dispatch (unique : d.registered.Nodup) (trace : Trace) :
    (d.dispatch trace).2.counts.dispatched = d.counts.dispatched + 1 := by
  have ended := dispatches unique trace
  generalize d.dispatch trace = result at ended
  cases ended with
  | delivered _ _ _ counts => rw [counts]
  | buffered _ _ _ _ counts => rw [counts]
  | evicted _ _ _ _ counts => rw [counts]

theorem dispatched_le_step (unique : d.registered.Nodup) (call : Call) :
    d.counts.dispatched ≤ (step d call).2.counts.dispatched := by
  cases call with
  | dispatch trace =>
      change _ ≤ (d.dispatch trace).2.counts.dispatched
      rw [dispatched_dispatch unique]
      exact Nat.le_succ _
  | register receiver =>
      exact Nat.le_of_eq (congrArg (·.dispatched) (offered_register receiver d).counts).symm
  | unregister => exact Nat.le_refl _
  | clear => exact Nat.le_refl _

/-- A call asks no receiver twice about one trace. -/
theorem Waits.nodup_keys (h : Waits waiting d) (call : Call) :
    ((bids waiting (.at Dispatcher.step d call)).map Bid.key).Nodup := by
  have next := (h.step call).unique
  rw [List.Nodup, List.pairwise_map]
  cases call with
  | dispatch trace =>
      have asked := (prefix_upToFirst (d.acceptsAt trace) d.registered).sublist.nodup h.unique
      refine List.pairwise_map.mpr (asked.imp ?_)
      exact fun apart same => apart (Prod.ext_iff.mp same).2
  | register receiver =>
      change (d.register receiver).2.registered.Nodup at next
      rw [(offered_register receiver d).registered] at next
      refine List.pairwise_flatMap.mpr ⟨fun first _ => ?_, ?_⟩
      · refine List.pairwise_map.mpr (next.imp ?_)
        exact fun apart same => apart (Prod.ext_iff.mp same).2
      · refine (List.pairwise_map.mp h.numbered).imp ?_
        intro first later less bid listed other listed' same
        obtain ⟨handle, -, rfl⟩ := List.mem_map.mp listed
        obtain ⟨handle', -, rfl⟩ := List.mem_map.mp listed'
        exact Nat.ne_of_lt less (Prod.ext_iff.mp same).1
  | unregister => exact .nil
  | clear => exact .nil

/-- No receiver has been bothered too much, and those offered a waiting trace all refused it once. -/
structure Fair (book : Book) (d : Dispatcher) : Prop where
  registered : d.registered = book.registered
  waits : Waits book.waiting d
  past : ∀ offer ∈ book.made, offer.call.number < d.counts.dispatched
  refused : ∀ number ∈ book.waiting.map Prod.fst, ∀ handle,
    (verdicts number handle book.made).length ≤ 1 ∧
      ∀ verdict ∈ verdicts number handle book.made, verdict.isAccepted = false
  spared : ∀ number handle, Spared (verdicts number handle book.made)

theorem Fair.none_yet (h : Fair book d) (handle : Nat) :
    verdicts d.counts.dispatched handle book.made = [] :=
  verdicts_of_absent fun offer made => Nat.ne_of_lt (h.past offer made)

theorem Fair.step (h : Fair book d) (call : Call) :
    Fair (noteOffers book (.at step d call)) (Dispatcher.step d call).2 := by
  let m : Moment Dispatcher Call Answer := .at Dispatcher.step d call
  have counted := dispatched_le_step h.waits.unique call
  have once (number handle : Nat) :
      (verdicts number handle (Dispatcher.offers book.waiting m)).length ≤ 1 := by
    rw [Dispatcher.offers, length_verdicts]
    exact List.nodup_iff_count.mp (h.waits.nodup_keys call) _
  refine ⟨?_, h.waits.step call, ?_, ?_, ?_⟩
  · rw [registered_step h.waits.unique call, h.registered]
    rfl
  · refine List.forall_mem_append.mpr ⟨fun offer made => ?_, fun offer made => ?_⟩
    · exact Nat.lt_of_lt_of_le (h.past offer made) counted
    · rcases number_of_offer made with ⟨trace, rfl, same⟩ | ⟨receiver, rfl, waits⟩
      · have next : (Dispatcher.step d (.dispatch trace)).2.counts.dispatched =
            d.counts.dispatched + 1 := dispatched_dispatch h.waits.unique trace
        rw [next, same]
        exact Nat.lt_succ_self _
      · exact Nat.lt_of_lt_of_le (h.waits.past _ waits) counted
  · intro number waits handle
    change (verdicts number handle (book.made ++ _)).length ≤ 1 ∧
      ∀ verdict ∈ verdicts number handle (book.made ++ _), verdict.isAccepted = false
    rw [verdicts_append]
    rcases mem_noteWaiting waits with ⟨before, noRegister⟩ | ⟨trace, rfl, undelivered, same⟩
    · -- A trace that waits on is not among those offered.
      have unasked : verdicts number handle (Dispatcher.offers book.waiting m) = [] := by
        refine verdicts_of_absent ?_
        rintro offer made rfl
        rcases number_of_offer made with ⟨trace, -, same⟩ | ⟨receiver, isRegister, -⟩
        · exact Nat.ne_of_lt (h.waits.past _ before) same
        · exact noRegister receiver isRegister
      rw [unasked, List.append_nil]
      exact h.refused number before handle
    · -- The trace dispatched now waits because nobody took it.
      have dispatched := (h.waits.offers_dispatch trace).dispatched trace rfl
      have new : number = d.counts.dispatched := same
      rw [new, h.none_yet]
      refine ⟨once _ handle, fun verdict member => ?_⟩
      obtain ⟨offer, made, rfl⟩ := mem_verdicts member
      refine Bool.eq_false_iff.mpr fun accepted => undelivered ?_
      exact dispatched.2.2.1.mpr ⟨offer, made, accepted⟩
  · intro number handle
    change Spared (verdicts number handle (book.made ++ _))
    rw [verdicts_append]
    by_cases offered : ∃ offer ∈ Dispatcher.offers book.waiting m, offer.call.number = number
    · obtain ⟨offer, made, rfl⟩ := offered
      rcases number_of_offer made with ⟨trace, -, same⟩ | ⟨receiver, -, waits⟩
      · have new : offer.call.number = d.counts.dispatched := same
        rw [new, h.none_yet]
        exact spared_append (Nat.zero_le 1) (List.forall_mem_nil _) (once _ handle)
      · obtain ⟨before, refused⟩ := h.refused _ waits handle
        exact spared_append before refused (once _ handle)
    · have unasked : verdicts number handle (Dispatcher.offers book.waiting m) = [] :=
        verdicts_of_absent fun offer made same => offered ⟨offer, made, same⟩
      rw [unasked, List.append_nil]
      exact h.spared number handle

theorem fair_create {capacity : Nat} (created : create capacity = .done d) : Fair {} d := by
  unfold create at created
  split at created
  · cases created
  · rename_i positive
    split at created
    · cases created
    · cases created
      have balanced : Balanced capacity [] { capacity } :=
        ⟨Nat.pos_of_ne_zero positive, rfl, .nil, nofun, rfl, rfl, List.drop_nil.symm⟩
      have nothing : Waits [] { capacity } :=
        ⟨⟨capacity, [], balanced⟩, .nil, rfl, .nil, List.forall_mem_nil _⟩
      refine ⟨rfl, nothing, List.forall_mem_nil _, List.forall_mem_nil _, fun number handle => ?_⟩
      exact ⟨Nat.zero_le 2, List.forall_mem_nil _⟩

theorem Fair.after (h : Fair book d) (calls : List Call) :
    Fair ((moments Dispatcher.step d calls).foldl noteOffers book)
      (after Dispatcher.step d calls) := by
  induction calls generalizing d book with
  | nil => exact h
  | cons call rest ih => exact ih (h.step call)

/-- Whoever comes, goes, fails or crashes: the registered receivers stand in the order they came, what
waits is in the buffer in the order of its dispatch, every call that follows makes the offers it
should, and no receiver is asked about a trace a third time, or again after accepting it. -/
theorem offered_twice_at_most {capacity : Nat} {first : Dispatcher}
    (created : create capacity = .done first) (calls : List Call) :
    let book := (moments step first calls).foldl noteOffers {}
    let last := after step first calls
    last.registered = book.registered ∧
      book.registered.Pairwise (· < ·) ∧
      book.waiting.map Prod.snd = last.buffer ∧
      (book.waiting.map Prod.fst).Pairwise (· < ·) ∧
      (∀ call, Offers book.waiting (.at step last call)) ∧
      ∀ number handle, Spared (verdicts number handle book.made) := by
  intro book last
  have fair := (fair_create created).after calls
  exact ⟨fair.registered, fair.registered ▸ fair.waits.inOrder, fair.waits.buffered,
    fair.waits.numbered, fair.waits.offers, fair.spared⟩

/-- A trace one receiver declines and takes when another comes, and a second that goes to the other. -/
def twoMoods : List Call :=
  [.register moody, .dispatch (brief "a"), .register moody, .dispatch (brief "b")]

theorem offers_of_two_moods : ∃ first, create 2 = .done first ∧
    let book := (moments step first twoMoods).foldl noteOffers {}
    verdicts 0 0 book.made = [.declined, .accepted] ∧
      verdicts 0 1 book.made = [.declined] ∧
      verdicts 1 0 book.made = [.crashed "tired"] ∧
      verdicts 1 1 book.made = [.accepted] ∧
      (∀ call, Offers book.waiting (.at step (after step first twoMoods) call)) ∧
      ∀ number handle, Spared (verdicts number handle book.made) := by
  have created : create 2 = .done { capacity := 2 } := rfl
  obtain ⟨-, -, -, -, offers, spared⟩ := offered_twice_at_most created twoMoods
  refine ⟨_, created, ?_, ?_, ?_, ?_, offers, spared⟩
  all_goals decide +kernel

end
end Dispatcher
end SpanCapture
