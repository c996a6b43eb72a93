import SpanCapture.Delivery.Receiver
import SpanCapture.Number.Power
import SpanCapture.Outcome

/-! The dispatcher: finished traces go to the first receiver that accepts them; what nobody
accepts waits in a buffer, from which the oldest falls out when it is full. A newly
registered receiver makes everything waiting go to all receivers once more, accepted or
not. -/
namespace SpanCapture

/-- What became of a dispatched trace. -/
inductive DispatchEnd where
  | delivered
  | buffered
  /-- Buffered, and the oldest trace fell out. -/
  | evicted
  deriving Repr, DecidableEq

/-- An offer as the journal keeps it: who was asked, about which trace, and the answer. -/
structure Offer where
  receiver : String
  root : String
  verdict : Verdict
  deriving Repr

/-- How often each thing has happened since the dispatcher was made. -/
structure DispatchCounts where
  dispatched : Nat := 0
  delivered : Nat := 0
  buffered : Nat := 0
  evicted : Nat := 0
  replayed : Nat := 0
  deriving Repr, DecidableEq

/-- The receivers of traces, and the traces nobody has taken yet. -/
structure Dispatcher where
  capacity : Nat
  /-- All receivers ever known; their handles are their positions. -/
  receivers : List Receiver := []
  /-- The handles of the registered ones, first come first asked. -/
  registered : List Nat := []
  /-- The traces waiting, oldest first. -/
  buffer : List Trace := []
  counts : DispatchCounts := {}
  journal : List Offer := []

namespace Dispatcher

/-- The greatest count of waiting traces there can be memory for, at eight bytes each. -/
def greatestCapacity : Nat := (twoTo 63 - 1) / 8

/-- A dispatcher whose buffer has room for some traces, at least one. -/
def create (capacity : Nat) : Outcome Dispatcher :=
  if capacity = 0 then .crashed "Dispatch buffer capacity must be > 0"
  else if greatestCapacity < capacity then .crashed "capacity overflow"
  else .done { capacity }

/-- Offers a trace to the receiver of a handle, registered or not. -/
def offerTo (handle : Nat) (trace : Trace) (d : Dispatcher) : Verdict × Dispatcher :=
  match d.receivers[handle]? with
  | none => (.declined, d)
  | some receiver =>
    let (verdict, after) := receiver.offer trace
    let offer := ⟨receiver.label, trace.root.entry.op.label, verdict⟩
    (verdict, { d with
      receivers := d.receivers.set handle after
      journal := d.journal ++ [offer] })

/-- Offers a trace to receivers one after another until one accepts it. -/
def deliver (trace : Trace) : List Nat → Dispatcher → Bool × Dispatcher
  | [], d => (false, d)
  | handle :: rest, d =>
    let (verdict, d) := d.offerTo handle trace
    if verdict.isAccepted then (true, d) else deliver trace rest d

/-- Puts a trace last into the buffer. If that is one too many, the oldest falls out. -/
def keep (trace : Trace) (d : Dispatcher) : DispatchEnd × Dispatcher :=
  let buffer := d.buffer ++ [trace]
  let counts := { d.counts with buffered := d.counts.buffered + 1 }
  if d.capacity < buffer.length then
    (.evicted, { d with
      buffer := buffer.tail, counts := { counts with evicted := counts.evicted + 1 } })
  else (.buffered, { d with buffer, counts })

/-- Delivers a trace to the first receiver that accepts it, or keeps it. -/
def dispatch (trace : Trace) (d : Dispatcher) : DispatchEnd × Dispatcher :=
  let d := { d with counts := { d.counts with dispatched := d.counts.dispatched + 1 } }
  match d.deliver trace d.registered with
  | (true, d) =>
    (.delivered, { d with counts := { d.counts with delivered := d.counts.delivered + 1 } })
  | (false, d) => d.keep trace

def offerAll (trace : Trace) : List Nat → Dispatcher → Dispatcher
  | [], d => d
  | handle :: rest, d => offerAll trace rest (d.offerTo handle trace).2

/-- Offers traces, one after another, to all registered receivers. -/
def replay : List Trace → Dispatcher → Dispatcher
  | [], d => d
  | trace :: rest, d => replay rest (d.offerAll trace d.registered)

/-- Registers a receiver behind the others; gives its handle. Everything waiting is
replayed, and the buffer is empty afterwards. -/
def register (receiver : Receiver) (d : Dispatcher) : Nat × Dispatcher :=
  let handle := d.receivers.length
  let pending := d.buffer
  let d := { d with
    receivers := d.receivers ++ [receiver]
    registered := d.registered ++ [handle]
    buffer := []
    counts := { d.counts with replayed := d.counts.replayed + pending.length } }
  (handle, d.replay pending)

/-- Asks a receiver no more; the flag tells whether it was asked before. -/
def unregister (handle : Nat) (d : Dispatcher) : Bool × Dispatcher :=
  (d.registered.contains handle,
    { d with registered := d.registered.filter (· != handle) })

def clear (handle : Nat) (d : Dispatcher) : Dispatcher :=
  { d with receivers := d.receivers.modify handle Receiver.clear }

def tracesOf (handle : Nat) (d : Dispatcher) : List Trace :=
  match d.receivers[handle]? with
  | some receiver => receiver.traces
  | none => []

def names (d : Dispatcher) : List String :=
  d.registered.filterMap fun handle => d.receivers[handle]?.map (·.sink.name)

def evictionRate (d : Dispatcher) : Binary64 :=
  if d.counts.dispatched = 0 then Binary64.zero
  else .ofRatio false d.counts.evicted d.counts.dispatched

def shown (d : Dispatcher) : String :=
  "Dispatcher \x7b listeners: " ++ toString d.registered.length ++
    ", stats: DispatchStats \x7b dispatched: " ++ toString d.counts.dispatched ++
    ", delivered: " ++ toString d.counts.delivered ++
    ", buffered: " ++ toString d.counts.buffered ++
    ", evicted: " ++ toString d.counts.evicted ++
    ", replayed: " ++ toString d.counts.replayed ++
    ", current_size: " ++ toString d.buffer.length ++
    ", capacity: " ++ toString d.capacity ++ " \x7d \x7d"

end Dispatcher
end SpanCapture
