import SpanCapture.Proofs.Delivery.Calls
import SpanCapture.Proofs.Run

/-! No trace is lost uncounted. Every trace dispatched was delivered or buffered, every one buffered
was replayed, fell out, or waits; and what waits are the latest refused since a receiver came,
in the order they came. Receivers may accept, decline, fail or crash as they please. -/
namespace SpanCapture
namespace Dispatcher

section
variable {d d' : Dispatcher} {trace : Trace} {handle : Nat} {handles : List Nat}

/-- The same capacity, the same receivers registered, and none lost. -/
structure Keeps (d d' : Dispatcher) : Prop where
  capacity : d'.capacity = d.capacity
  registered : d'.registered = d.registered
  known : d'.receivers.length = d.receivers.length

/-- Offers change receivers and the journal only. -/
structure Offered (d d' : Dispatcher) : Prop extends Keeps d d' where
  buffer : d'.buffer = d.buffer
  counts : d'.counts = d.counts

theorem Offered.refl (d : Dispatcher) : d.Offered d := ⟨⟨rfl, rfl, rfl⟩, rfl, rfl⟩

theorem Offered.trans {d'' : Dispatcher} (first : d.Offered d') (next : d'.Offered d'') :
    d.Offered d'' where
  capacity := next.capacity.trans first.capacity
  registered := next.registered.trans first.registered
  known := next.known.trans first.known
  buffer := next.buffer.trans first.buffer
  counts := next.counts.trans first.counts

theorem offered_offerTo (handle : Nat) (trace : Trace) (d : Dispatcher) :
    d.Offered (d.offerTo handle trace).2 := by
  unfold offerTo
  split
  · exact .refl d
  · exact ⟨⟨rfl, rfl, List.length_set⟩, rfl, rfl⟩

theorem offered_deliver (trace : Trace) (handles : List Nat) (d : Dispatcher) :
    d.Offered (d.deliver trace handles).2 := by
  induction handles generalizing d with
  | nil => exact .refl d
  | cons handle rest ih =>
      have first := offered_offerTo handle trace d
      unfold deliver
      dsimp only
      split
      · exact first
      · exact first.trans (ih _)

theorem offered_offerAll (trace : Trace) (handles : List Nat) (d : Dispatcher) :
    d.Offered (d.offerAll trace handles) := by
  induction handles generalizing d with
  | nil => exact .refl d
  | cons handle rest ih => exact (offered_offerTo handle trace d).trans (ih _)

theorem offered_replay (traces : List Trace) (d : Dispatcher) : d.Offered (d.replay traces) := by
  induction traces generalizing d with
  | nil => exact .refl d
  | cons trace rest ih => exact (offered_offerAll trace d.registered d).trans (ih _)

/-- A newcomer is registered behind the others and the buffer is emptied; all else is offers. -/
theorem offered_register (receiver : Receiver) (d : Dispatcher) :
    Offered { d with
      receivers := d.receivers ++ [receiver]
      registered := d.registered ++ [d.receivers.length]
      buffer := []
      counts := { d.counts with replayed := d.counts.replayed + d.buffer.length } }
      (d.register receiver).2 := offered_replay d.buffer _

/-- Whether the receiver of a handle, as it is now, would accept a trace. -/
def acceptsAt (d : Dispatcher) (trace : Trace) (handle : Nat) : Bool :=
  match d.receivers[handle]? with
  | none => false
  | some receiver => (receiver.offer trace).1.isAccepted

/-- Whether some registered receiver, as they are now, would accept a trace. -/
def accepts (d : Dispatcher) (trace : Trace) : Bool := d.registered.any (d.acceptsAt trace)

theorem isAccepted_offerTo (handle : Nat) (trace : Trace) (d : Dispatcher) :
    (d.offerTo handle trace).1.isAccepted = d.acceptsAt trace handle := by
  unfold offerTo acceptsAt
  cases d.receivers[handle]? with
  | none => rfl
  | some receiver => rfl

/-- An offer to one receiver leaves the others as they are. -/
theorem acceptsAt_offerTo {other : Nat} (apart : handle ≠ other) :
    (d.offerTo handle trace).2.acceptsAt trace other = d.acceptsAt trace other := by
  unfold offerTo
  split
  · rfl
  · simp only [acceptsAt, List.getElem?_set_ne apart]

/-- A trace is delivered exactly if some receiver asked would accept it. -/
theorem deliver_eq_any (unique : handles.Nodup) (trace : Trace) (d : Dispatcher) :
    (d.deliver trace handles).1 = handles.any (d.acceptsAt trace) := by
  induction handles generalizing d with
  | nil => rfl
  | cons handle rest ih =>
      obtain ⟨absent, later⟩ := List.nodup_cons.mp unique
      have verdict := isAccepted_offerTo handle trace d
      rw [List.any_cons]
      unfold deliver
      dsimp only
      split
      · rename_i accepted
        rw [← verdict, accepted]
        rfl
      · rename_i refused
        have same : rest.any ((d.offerTo handle trace).2.acceptsAt trace) =
            rest.any (d.acceptsAt trace) := by
          rw [Bool.eq_iff_iff, List.any_eq_true, List.any_eq_true]
          refine exists_congr fun other => and_congr_right fun member => ?_
          have apart : handle ≠ other := by
            rintro rfl
            exact absent member
          rw [acceptsAt_offerTo apart]
        rw [ih later, same, ← verdict, Bool.eq_false_iff.mpr refused, Bool.false_or]

inductive Dispatches (d : Dispatcher) (trace : Trace) : DispatchEnd × Dispatcher → Prop
  | delivered {d' : Dispatcher} (accepted : d.accepts trace = true) (kept : d.Keeps d')
      (buffer : d'.buffer = d.buffer)
      (counts : d'.counts = { d.counts with
        dispatched := d.counts.dispatched + 1, delivered := d.counts.delivered + 1 }) :
      Dispatches d trace (.delivered, d')
  | buffered {d' : Dispatcher} (refused : d.accepts trace = false)
      (room : d.buffer.length < d.capacity) (kept : d.Keeps d')
      (buffer : d'.buffer = d.buffer ++ [trace])
      (counts : d'.counts = { d.counts with
        dispatched := d.counts.dispatched + 1, buffered := d.counts.buffered + 1 }) :
      Dispatches d trace (.buffered, d')
  | evicted {d' : Dispatcher} (refused : d.accepts trace = false)
      (full : d.capacity ≤ d.buffer.length) (kept : d.Keeps d')
      (buffer : d'.buffer = (d.buffer ++ [trace]).tail)
      (counts : d'.counts = { d.counts with
        dispatched := d.counts.dispatched + 1, buffered := d.counts.buffered + 1,
        evicted := d.counts.evicted + 1 }) :
      Dispatches d trace (.evicted, d')

theorem dispatches (unique : d.registered.Nodup) (trace : Trace) :
    Dispatches d trace (d.dispatch trace) := by
  let counted := { d with counts := { d.counts with dispatched := d.counts.dispatched + 1 } }
  have offered := offered_deliver trace counted.registered counted
  have verdict : (counted.deliver trace counted.registered).1 = d.accepts trace :=
    deliver_eq_any unique trace counted
  unfold dispatch
  dsimp only
  split
  · rename_i d' accepted
    rw [accepted] at verdict offered
    have kept := offered.toKeeps
    exact .delivered verdict.symm ⟨kept.capacity, kept.registered, kept.known⟩ offered.buffer
      (by rw [offered.counts])
  · rename_i d' refused
    rw [refused] at verdict offered
    have kept := offered.toKeeps
    unfold keep
    dsimp only
    rw [offered.buffer, offered.capacity, offered.counts, List.length_append, List.length_singleton]
    split
    · rename_i full
      have full : d.capacity ≤ d.buffer.length := Nat.le_of_lt_succ full
      exact .evicted verdict.symm full ⟨rfl, kept.registered, kept.known⟩ rfl rfl
    · rename_i room
      have room : d.buffer.length < d.capacity := Nat.not_lt.mp room
      exact .buffered verdict.symm room ⟨rfl, kept.registered, kept.known⟩ rfl rfl

/-- The traces nobody accepted since a receiver last came, oldest first. -/
def noteRefused (refused : List Trace) (m : Moment Dispatcher Call Answer) : List Trace :=
  match m.call with
  | .dispatch trace => if m.before.accepts trace then refused else refused ++ [trace]
  | .register _ => []
  | _ => refused

def latest (count : Nat) (traces : List Trace) : List Trace := traces.drop (traces.length - count)

/-- The books of a dispatcher balance, and what waits are the latest of the refused. -/
structure Balanced (capacity : Nat) (refused : List Trace) (d : Dispatcher) : Prop where
  room : 0 < capacity
  size : d.capacity = capacity
  unique : d.registered.Nodup
  known : ∀ handle ∈ d.registered, handle < d.receivers.length
  dispatched : d.counts.dispatched = d.counts.delivered + d.counts.buffered
  buffered : d.counts.buffered = d.counts.replayed + d.counts.evicted + d.buffer.length
  waiting : d.buffer = latest capacity refused

variable {capacity : Nat} {refused : List Trace}

theorem Balanced.length_buffer (h : Balanced capacity refused d) :
    d.buffer.length = min refused.length capacity := by
  rw [h.waiting, latest, List.length_drop]
  omega

/-- As long as there are not too many, a newcomer makes one more. -/
theorem latest_append_of_room (space : refused.length < capacity) (trace : Trace) :
    latest capacity (refused ++ [trace]) = latest capacity refused ++ [trace] := by
  have all : refused.length - capacity = 0 := by omega
  have still : (refused ++ [trace]).length - capacity = 0 := by
    rw [List.length_append, List.length_singleton]
    omega
  rw [latest, latest, all, still]
  rfl

/-- Of enough traces, a newcomer takes the place of the oldest. -/
theorem latest_append_of_full (room : 0 < capacity) (enough : capacity ≤ refused.length)
    (trace : Trace) :
    latest capacity (refused ++ [trace]) = (latest capacity refused).tail ++ [trace] := by
  have next : (refused ++ [trace]).length - capacity = refused.length - capacity + 1 := by
    rw [List.length_append, List.length_singleton]
    omega
  rw [latest, latest, next, List.drop_append_of_le_length (by omega), List.tail_drop]

/-- A full buffer is not empty: the oldest falls out in front of the newcomer. -/
theorem tail_append_of_full (room : 0 < capacity) (full : capacity ≤ d.buffer.length)
    (trace : Trace) : (d.buffer ++ [trace]).tail = d.buffer.tail ++ [trace] :=
  List.tail_append_of_ne_nil (List.ne_nil_of_length_pos (Nat.lt_of_lt_of_le room full))

theorem Balanced.dispatch (h : Balanced capacity refused d) (trace : Trace) :
    Balanced capacity (noteRefused refused (.at step d (.dispatch trace))) (d.dispatch trace).2 := by
  have ended := dispatches h.unique trace
  have booked : noteRefused refused (.at step d (.dispatch trace)) =
      if d.accepts trace then refused else refused ++ [trace] := rfl
  rw [booked]
  generalize d.dispatch trace = result at ended
  have dispatched := h.dispatched
  have buffered := h.buffered
  have length := h.length_buffer
  have room := h.room
  have known {d' : Dispatcher} (kept : d.Keeps d') :
      ∀ handle ∈ d'.registered, handle < d'.receivers.length := by
    rw [kept.registered, kept.known]
    exact h.known
  cases ended with
  | delivered accepted kept buffer counts =>
      rw [accepted, if_pos rfl]
      refine ⟨room, kept.capacity.trans h.size, kept.registered ▸ h.unique, known kept, ?_, ?_, ?_⟩
      · rw [counts]
        dsimp only
        omega
      · rw [counts, buffer]
        exact buffered
      · rw [buffer]
        exact h.waiting
  | buffered rejected space kept buffer counts =>
      rw [h.size] at space
      rw [rejected, if_neg Bool.false_ne_true]
      refine ⟨room, kept.capacity.trans h.size, kept.registered ▸ h.unique, known kept, ?_, ?_, ?_⟩
      · rw [counts]
        dsimp only
        omega
      · rw [counts, buffer, List.length_append, List.length_singleton]
        dsimp only
        omega
      · have fewer : refused.length < capacity := by omega
        rw [buffer, latest_append_of_room fewer, h.waiting]
  | evicted rejected full kept buffer counts =>
      rw [h.size] at full
      rw [tail_append_of_full room full] at buffer
      rw [rejected, if_neg Bool.false_ne_true]
      refine ⟨room, kept.capacity.trans h.size, kept.registered ▸ h.unique, known kept, ?_, ?_, ?_⟩
      · rw [counts]
        dsimp only
        omega
      · rw [counts, buffer, List.length_append, List.length_singleton, List.length_tail]
        dsimp only
        omega
      · have enough : capacity ≤ refused.length := by omega
        rw [buffer, latest_append_of_full room enough, h.waiting]

theorem Balanced.register (h : Balanced capacity refused d) (receiver : Receiver) :
    Balanced capacity [] (d.register receiver).2 := by
  have replayed := offered_register receiver d
  have buffered := h.buffered
  refine ⟨h.room, replayed.capacity.trans h.size, ?_, ?_, ?_, ?_, ?_⟩
  · rw [replayed.registered]
    refine List.nodup_append.mpr ⟨h.unique, List.pairwise_singleton _ _, ?_⟩
    rintro handle member other new rfl
    rw [List.mem_singleton.mp new] at member
    exact Nat.lt_irrefl _ (h.known _ member)
  · rw [replayed.registered, replayed.known]
    intro handle member
    change handle < (d.receivers ++ [receiver]).length
    rw [List.length_append, List.length_singleton]
    rcases List.mem_append.mp member with before | new
    · exact Nat.lt_succ_of_lt (h.known handle before)
    · rw [List.mem_singleton.mp new]
      exact Nat.lt_succ_self _
  · rw [replayed.counts]
    exact h.dispatched
  · rw [replayed.counts, replayed.buffer]
    change d.counts.buffered = d.counts.replayed + d.buffer.length + d.counts.evicted + 0
    omega
  · rw [replayed.buffer]
    exact List.drop_nil.symm

/-- Every call keeps the books balanced. -/
theorem Balanced.step (h : Balanced capacity refused d) (call : Call) :
    Balanced capacity (noteRefused refused (.at step d call)) (step d call).2 := by
  cases call with
  | dispatch trace => exact h.dispatch trace
  | register receiver => exact h.register receiver
  | unregister handle =>
      refine ⟨h.room, h.size, h.unique.filter _, ?_, h.dispatched, h.buffered, h.waiting⟩
      exact fun other member => h.known other (List.mem_filter.mp member).1
  | clear handle =>
      refine ⟨h.room, h.size, h.unique, ?_, h.dispatched, h.buffered, h.waiting⟩
      intro other member
      change other < (d.receivers.modify handle Receiver.clear).length
      rw [List.length_modify]
      exact h.known other member

/-- How the dispatch of a trace ends: it is delivered if somebody accepts it; else the oldest trace
falls out for it if the buffer is full, and nothing does if it is not. -/
structure EndsRight (capacity : Nat) (d : Dispatcher) (trace : Trace) (result : DispatchEnd)
    (d' : Dispatcher) : Prop where
  delivered : result = .delivered ↔ d.accepts trace = true
  evicted : result = .evicted ↔ d.accepts trace = false ∧ d.buffer.length = capacity
  oldest : result = .evicted → d'.buffer = d.buffer.tail ++ [trace] ∧
    d'.counts.evicted = d.counts.evicted + 1
  nothing : result ≠ .evicted → d'.counts.evicted = d.counts.evicted

theorem Balanced.endsRight (h : Balanced capacity refused d) (trace : Trace) :
    EndsRight capacity d trace (d.dispatch trace).1 (d.dispatch trace).2 := by
  have ended := dispatches h.unique trace
  have length := h.length_buffer
  generalize d.dispatch trace = result at ended
  cases ended with
  | delivered accepted kept buffer counts =>
      refine ⟨iff_of_true rfl accepted, iff_of_false nofun ?_, nofun, fun _ => by rw [counts]⟩
      rintro ⟨refused, -⟩
      exact Bool.false_ne_true (refused.symm.trans accepted)
  | buffered rejected space kept buffer counts =>
      rw [h.size] at space
      refine ⟨iff_of_false nofun ?_, iff_of_false nofun ?_, nofun, fun _ => by rw [counts]⟩
      · exact fun accepted => Bool.false_ne_true (rejected.symm.trans accepted)
      · exact fun full => Nat.ne_of_lt space full.2
  | evicted rejected full kept buffer counts =>
      rw [h.size] at full
      rw [tail_append_of_full h.room full] at buffer
      have exactly : d.buffer.length = capacity := by omega
      refine ⟨iff_of_false nofun ?_, iff_of_true rfl ⟨rejected, exactly⟩, ?_, fun other => ?_⟩
      · exact fun accepted => Bool.false_ne_true (rejected.symm.trans accepted)
      · exact fun _ => ⟨buffer, by rw [counts]⟩
      · exact absurd rfl other

/-- A call does to the traces waiting what it should: only a dispatch makes one fall out. -/
def Orderly (capacity : Nat) (m : Moment Dispatcher Call Answer) : Prop :=
  match m.call with
  | .dispatch trace =>
    ∃ result, m.answer = .ended result ∧ EndsRight capacity m.before trace result m.after
  | _ => m.after.counts.evicted = m.before.counts.evicted

theorem Balanced.orderly (h : Balanced capacity refused d) (call : Call) :
    Orderly capacity (.at Dispatcher.step d call) := by
  cases call with
  | dispatch trace => exact ⟨_, rfl, h.endsRight trace⟩
  | register receiver => exact congrArg (·.evicted) (offered_register receiver d).counts
  | unregister => rfl
  | clear => rfl

theorem Balanced.after (h : Balanced capacity refused d) (calls : List Call) :
    Balanced capacity ((moments Dispatcher.step d calls).foldl noteRefused refused)
        (after Dispatcher.step d calls) ∧
      ∀ m ∈ moments Dispatcher.step d calls, Orderly capacity m := by
  induction calls generalizing d refused with
  | nil => exact ⟨h, List.forall_mem_nil _⟩
  | cons call rest ih =>
      obtain ⟨balanced, orderly⟩ := ih (h.step call)
      exact ⟨balanced, List.forall_mem_cons.mpr ⟨h.orderly call, orderly⟩⟩

/-- Whatever is dispatched and whoever comes and goes: what was dispatched was delivered or buffered,
what was buffered was replayed, fell out or waits; the traces waiting are the latest of those
refused since a receiver last came, as many as there is room for, oldest first; and one falls out
only when another is refused and there is no room for it. -/
theorem books_balance {first : Dispatcher} (created : create capacity = .done first)
    (calls : List Call) :
    let last := after step first calls
    let refused := (moments step first calls).foldl noteRefused []
    last.counts.dispatched = last.counts.delivered + last.counts.buffered ∧
      last.counts.buffered = last.counts.replayed + last.counts.evicted + last.buffer.length ∧
      last.buffer.length ≤ capacity ∧
      last.buffer = latest capacity refused ∧
      ∀ m ∈ moments step first calls, Orderly capacity m := by
  intro last refused
  have start : Balanced capacity [] first := by
    unfold create at created
    split at created
    · cases created
    · rename_i positive
      split at created
      · cases created
      · cases created
        exact ⟨Nat.pos_of_ne_zero positive, rfl, .nil, nofun, rfl, rfl, List.drop_nil.symm⟩
  obtain ⟨balanced, orderly⟩ := start.after calls
  have length := balanced.length_buffer
  refine ⟨balanced.dispatched, balanced.buffered, ?_, balanced.waiting, orderly⟩
  exact length ▸ Nat.min_le_right _ _

def brief (id : String) : Trace where
  id
  application := "shop"
  server := "local"
  kind := "http"
  start := ⟨0, 0⟩
  root := .node (.opened 1 none { kind := "http", label := id } 0) []
  hints := []
  sensitive := false
  minimal := false
  endpoint := none

/-- A receiver that takes the second trace offered, crashes at the third and declines the rest. -/
def moody : Receiver where
  label := "moody"
  sink := .custom fun offered _ =>
    if offered.length = 1 then .accepted
    else if offered.length = 2 then .crashed "tired"
    else .declined

/-- One trace before the receiver comes, four after. -/
def moodyDay : List Call :=
  [.dispatch (brief "a"), .register moody, .dispatch (brief "b"), .dispatch (brief "c"),
    .dispatch (brief "d"), .dispatch (brief "e")]

theorem books_of_moody_day : ∃ first, create 2 = .done first ∧
    let last := after step first moodyDay
    let refused := (moments step first moodyDay).foldl noteRefused []
    last.counts = { dispatched := 5, delivered := 1, buffered := 4, evicted := 1, replayed := 1 } ∧
      last.buffer.map (·.id) = ["d", "e"] ∧ last.buffer = latest 2 refused := by
  have created : create 2 = .done { capacity := 2 } := rfl
  obtain ⟨-, -, -, waiting, -⟩ := books_balance created moodyDay
  refine ⟨_, created, ?_, ?_, ?_⟩
  · decide +kernel
  · decide +kernel
  · exact waiting

end

end Dispatcher
end SpanCapture
