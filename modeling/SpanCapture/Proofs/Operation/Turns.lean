import SpanCapture.Proofs.Operation.Finalizing
import SpanCapture.Proofs.Operation.Within

/-! Every script has one turn. Told script by script, a finalizing run takes every script once,
from its beginning to its end, and none is left. Where no script finalizes its operation itself,
one script is through before the next begins, in the order in which they were deferred, and all of
them see the table as it was at the call. -/
namespace SpanCapture
namespace Finalizing.Event

def deferred? : Event → Option (List Action)
  | acts _ _ (.defer script) => some script
  | _ => none

def of (number : Nat) (events : List Event) : List Event :=
  events.filter (·.number == number)

section
variable {table : RichTable} {number first : Nat} {script : List Action}
  {scripts : List (List Action)}

@[simp] theorem of_append (a b : List Event) : of number (a ++ b) = of number a ++ of number b :=
  List.filter_append a b

theorem number_of_mem_turn {e : Event} (part : e ∈ turn table number script) :
    e.number = number := by
  rcases List.mem_cons.mp part with rfl | part
  · rfl
  · obtain ⟨action, -, rfl⟩ := List.mem_map.mp part
    rfl

theorem of_turn_self : of number (turn table number script) = turn table number script :=
  List.filter_eq_self.mpr fun _ part => beq_iff_eq.mpr (number_of_mem_turn part)

theorem of_turn_of_ne {other : Nat} (apart : number ≠ other) :
    of other (turn table number script) = [] :=
  List.filter_eq_nil_iff.mpr fun _ part same =>
    apart ((number_of_mem_turn part).symm.trans (beq_iff_eq.mp same))

theorem turns_append (a b : List (List Action)) :
    turns table first (a ++ b) = turns table first a ++ turns table (first + a.length) b := by
  induction a generalizing first with
  | nil => simp [turns]
  | cons script rest ih =>
      simp only [List.cons_append, turns, ih, List.append_assoc, List.length_cons,
        Nat.add_comm rest.length 1, Nat.add_assoc]

theorem of_turns_of_lt (before : number < first) : of number (turns table first scripts) = [] := by
  induction scripts generalizing first with
  | nil => rfl
  | cons script rest ih =>
      rw [turns, of_append, of_turn_of_ne (Nat.ne_of_gt before), ih (Nat.lt_succ_of_lt before)]
      rfl

/-- Each of the scripts has its turn, and nobody else has. -/
theorem of_turns (number : Nat) :
    of (first + number) (turns table first scripts) =
      (scripts[number]?.map (turn table (first + number))).getD [] := by
  induction scripts generalizing first number with
  | nil => rfl
  | cons script rest ih =>
      rw [turns, of_append]
      cases number with
      | zero =>
          rw [Nat.add_zero, of_turn_self, of_turns_of_lt (Nat.lt_succ_self first), List.append_nil]
          rfl
      | succ number =>
          rw [of_turn_of_ne (by omega), List.nil_append, List.getElem?_cons_succ,
            Nat.add_comm number 1, ← Nat.add_assoc, ih]

end

end Finalizing.Event

namespace Action

/-- Whether an action does not finalize its operation. -/
def flat : Action → Bool
  | .finalize => false
  | _ => true

end Action

namespace Finalizing.Event

def flat : Event → Bool
  | begins _ _ => true
  | acts _ _ action => action.within Action.flat

theorem flat_turns {table : RichTable} {first : Nat} {scripts : List (List Action)}
    (all : ∀ script ∈ scripts, Action.withinAll Action.flat script) :
    ∀ event ∈ turns table first scripts, event.flat := by
  induction scripts generalizing first with
  | nil => exact fun _ none => nomatch none
  | cons script rest ih =>
      obtain ⟨own, later⟩ := List.forall_mem_cons.mp all
      refine List.forall_mem_append.mpr ⟨List.forall_mem_cons.mpr ⟨rfl, ?_⟩, ih later⟩
      intro event part
      obtain ⟨action, inside, rfl⟩ := List.mem_map.mp part
      exact Action.withinAll_iff.mp own action inside

end Finalizing.Event

namespace Operation

theorem pending_apply (clock : Clock) (op : Operation) (source : Option RichTable)
    (number : Nat) (table : RichTable) (action : Action) :
    (op.apply clock source action).2.1.pending =
      op.pending ++ (Finalizing.Event.acts number table action).deferred?.toList := by
  cases action with
  | putJson key text =>
      simp only [apply, Finalizing.Event.deferred?, Option.toList_none, List.append_nil]
      split
      · rfl
      · split <;> rfl
  | markEndpoint on => cases on <;> exact (List.append_nil _).symm
  | defer script => rfl
  | _ => exact (List.append_nil _).symm

end Operation

namespace Finalizing

/-- The events that have passed, and those known to come. -/
def course (m : Finalizing) : List Event := m.events ++ m.jobs.filterMap Job.event?

/-- The scripts of a finalizing run so far, `first` having waited at the call: whatever was
deferred is taken or waits, and whatever is taken has its turn. -/
structure Fair (first : List (List Action)) (m : Finalizing) : Prop where
  registered : m.taken ++ m.op.pending = first ++ m.events.filterMap Event.deferred?
  turn : ∀ number, ∃ table,
    Event.of number m.course = (m.taken[number]?.map (Event.turn table number)).getD []

/-- The scripts go one by one, all with the table of the call. -/
structure InLine (table : RichTable) (m : Finalizing) : Prop where
  order : m.course = Event.turns table 0 m.taken
  jobs : m.jobs = [] ∨ ∃ ahead : List Event,
    m.jobs = ahead.map .event ++ [.drain table] ∧ ∀ event ∈ ahead, event.flat
  waiting : m.op.Within Action.flat

section
variable {m next : Finalizing} {first : List (List Action)} {table : RichTable}

theorem course_pass {event : Event} {rest : List Job} (here : m.jobs = .event event :: rest) :
    (m.pass event rest).course = m.course := by
  rw [course, course, here, List.filterMap_cons, pass, Job.event?, List.append_assoc]
  rfl

theorem course_take (table : RichTable) (m : Finalizing) :
    (m.take table).course = m.events ++ (Event.turns table m.taken.length m.op.pending ++
      m.jobs.filterMap Job.event?) := by
  have known : ∀ events : List Event, (events.map Job.event).filterMap Job.event? = events := by
    intro events
    rw [List.filterMap_map]
    exact List.filterMap_some
  rw [course, take, List.filterMap_append, known]
  rfl

theorem course_call (m : Finalizing) : m.call.course = m.course := by
  by_cases settled : m.op.Settled
  · rw [call_of_settled settled]
  · rw [call_of_waiting settled]
    rfl

theorem call_keeps (m : Finalizing) :
    m.call.taken = m.taken ∧ m.call.events = m.events ∧ m.call.op.pending = m.op.pending := by
  unfold call
  split <;> exact ⟨rfl, rfl, rfl⟩

theorem Fair.step (h : m.Fair first) (step : m.Step next) : next.Fair first := by
  cases step with
  | begins here =>
      refine ⟨?_, by rw [course_pass here]; exact h.turn⟩
      rw [pass, List.filterMap_append]
      exact h.registered.trans (congrArg (first ++ ·) (List.append_nil _).symm)
  | @acts number table action rest here quiet plain =>
      have same : course { m.pass (.acts number table action) rest with
          clock := _, op := _ } = m.course := course_pass here
      refine ⟨?_, fun number => same.symm ▸ h.turn number⟩
      have deferred := m.op.pending_apply m.clock (some table) number table action
      simp only [pass, deferred, List.filterMap_append, ← List.append_assoc, h.registered]
      rfl
  | @calls number table rest here =>
      obtain ⟨taken, events, pending⟩ := call_keeps (m.pass (.acts number table .finalize) rest)
      refine ⟨?_, by rw [course_call, course_pass here, taken]; exact h.turn⟩
      rw [taken, events, pending, pass, List.filterMap_append]
      exact h.registered.trans (congrArg (first ++ ·) (List.append_nil _).symm)
  | @ends table rest here settled =>
      have same : course { m with jobs := rest } = m.course := by
        rw [course, course, here]
        rfl
      exact ⟨h.registered, same ▸ h.turn⟩
  | @takes table rest here waiting =>
      refine ⟨(List.append_nil _).trans h.registered, fun number => ?_⟩
      have known : Event.of number m.course =
          Event.of number m.events ++ Event.of number (rest.filterMap Job.event?) := by
        rw [course, here]
        exact Event.of_append ..
      obtain ⟨given, own⟩ := h.turn number
      rw [course_take, Event.of_append, Event.of_append]
      rcases Nat.lt_or_ge number m.taken.length with old | new
      · -- An earlier script is not among those taken now.
        refine ⟨given, ?_⟩
        rw [Event.of_turns_of_lt old, List.nil_append, ← known, own, take,
          List.getElem?_append_left old]
      · refine ⟨table, ?_⟩
        rw [List.getElem?_eq_none new, known] at own
        obtain ⟨passed, later⟩ := List.append_eq_nil_iff.mp own
        obtain ⟨place, rfl⟩ := Nat.exists_eq_add_of_le new
        rw [passed, later, Event.of_turns, List.nil_append, List.append_nil, take,
          List.getElem?_append_right new, Nat.add_sub_cancel_left]

theorem InLine.next_event (h : m.InLine table) {event : Event} {rest : List Job}
    (here : m.jobs = .event event :: rest) :
    event.flat ∧ ∃ ahead : List Event,
      rest = ahead.map .event ++ [.drain table] ∧ ∀ event ∈ ahead, event.flat := by
  rcases h.jobs with none | ⟨ahead, jobs, flat⟩
  · rw [none] at here
    cases here
  · rw [jobs] at here
    cases ahead with
    | nil => cases here
    | cons first ahead =>
        obtain ⟨same, rfl⟩ := List.cons.inj here
        cases same
        obtain ⟨own, later⟩ := List.forall_mem_cons.mp flat
        exact ⟨own, ahead, rfl, later⟩

theorem InLine.next_drain (h : m.InLine table) {other : RichTable} {rest : List Job}
    (here : m.jobs = .drain other :: rest) : other = table ∧ rest = [] := by
  rcases h.jobs with none | ⟨ahead, jobs, -⟩
  · rw [none] at here
    cases here
  · rw [jobs] at here
    cases ahead with
    | nil =>
        cases here
        exact ⟨rfl, rfl⟩
    | cons first ahead => cases here

theorem InLine.step (h : m.InLine table) (step : m.Step next) : next.InLine table := by
  cases step with
  | begins here =>
      obtain ⟨-, later⟩ := h.next_event here
      exact ⟨(course_pass here).trans h.order, .inr later, h.waiting⟩
  | acts here quiet plain =>
      obtain ⟨flat, later⟩ := h.next_event here
      exact ⟨(course_pass here).trans h.order, .inr later, h.waiting.apply flat⟩
  | calls here =>
      obtain ⟨flat, -⟩ := h.next_event here
      cases flat
  | ends here settled =>
      obtain ⟨rfl, rfl⟩ := h.next_drain here
      refine ⟨?_, .inl rfl, h.waiting⟩
      rw [← h.order, course, course, here]
      rfl
  | takes here waiting =>
      obtain ⟨rfl, rfl⟩ := h.next_drain here
      refine ⟨?_, .inr ⟨_, rfl, ?_⟩, Operation.Settled.within rfl⟩
      · have passed : m.course = m.events := by
          rw [course, here]
          exact List.append_nil _
        rw [course_take, List.filterMap_nil, List.append_nil, ← passed, h.order, take,
          Event.turns_append, Nat.zero_add]
      · exact Event.flat_turns h.waiting

end
end Finalizing

namespace Operation

section
variable {op : Operation}

theorem fair_finalizing (clock : Clock) (op : Operation) :
    (op.finalizing clock).Fair op.pending := by
  refine Finalizing.run_keeps (fun _ _ step h => h.step step) _ ?_
  obtain ⟨taken, events, pending⟩ := Finalizing.call_keeps { clock, op }
  refine ⟨?_, ?_⟩
  · rw [taken, events, pending]
    exact (List.append_nil _).symm
  · intro number
    rw [Finalizing.course_call, taken]
    exact ⟨op.rich, rfl⟩

theorem inLine_finalizing (clock : Clock) (flat : op.Within Action.flat) :
    (op.finalizing clock).InLine op.rich := by
  refine Finalizing.run_keeps (fun _ _ step h => h.step step) _ ⟨?_, ?_, ?_⟩
  · rw [Finalizing.course_call, (Finalizing.call_keeps _).1]
    rfl
  · by_cases settled : op.Settled
    · rw [Finalizing.call_of_settled settled]
      exact .inl rfl
    · rw [Finalizing.call_of_waiting settled]
      exact .inr ⟨[], rfl, fun _ none => nomatch none⟩
  · intro script member
    rw [(Finalizing.call_keeps _).2.2] at member
    exact flat script member

/-- Finalizing comes to an end, and every script that waits or is deferred on the way runs exactly
once, all of it in its own order; nothing is left, and finalizing again changes nothing. Where no
script finalizes the operation itself, they run one after the other in the order in which they were
deferred, each with the side table of the call. -/
theorem finalize_runs_each_once (calm : op.Calm) (clock : Clock) :
    let run := op.finalizing clock
    let registered := op.pending ++ run.events.filterMap Finalizing.Event.deferred?
    op.finalize clock = (run.clock, run.op, .done ()) ∧
      (∀ number script, registered[number]? = some script →
        ∃ table, Finalizing.Event.of number run.events =
          Finalizing.Event.turn table number script) ∧
      (∀ event ∈ run.events, event.number < registered.length) ∧
      run.op.Settled ∧ (∀ later, run.op.finalize later = (later, run.op, .done ())) ∧
      (op.Within Action.flat → run.events = Finalizing.Event.turns op.rich 0 registered) := by
  intro run registered
  obtain ⟨same, jobs⟩ := finalize_eq_finalizing calm clock
  have settled : run.op.Settled := by
    have left := settled_finalize ((isDone_finalize_iff clock).mpr calm)
    rwa [same] at left
  have fair := fair_finalizing clock op
  have taken : run.taken = registered := by
    have whole := fair.registered
    rwa [settled, List.append_nil] at whole
  have course : run.course = run.events := by
    rw [Finalizing.course, jobs]
    exact List.append_nil _
  refine ⟨same, ?_, ?_, settled, fun later => finalize_settled settled later, ?_⟩
  · intro number script here
    obtain ⟨table, own⟩ := fair.turn number
    rw [course, taken, here] at own
    exact ⟨table, own⟩
  · intro event passed
    refine Nat.lt_of_not_le fun beyond => ?_
    obtain ⟨table, own⟩ := fair.turn event.number
    rw [course, taken, List.getElem?_eq_none beyond] at own
    exact List.filter_eq_nil_iff.mp own event passed (beq_self_eq_true event.number)
  · intro flat
    rw [← course, (inLine_finalizing clock flat).order, taken]

/-- Scripts that defer others, and change the side table while they run. -/
def layered : Operation :=
  { kind := "http", label := "GET /", rich := [("request", "first")]
    pending := [[.putRich "request" "second", .defer [.rich "request" "late", .defer []]],
      [.rich "request" "early", .advance 5], [.defer [.remove "early"]]] }

theorem layered_runs_each_once :
    layered.Calm ∧ layered.Within Action.flat ∧
      let run := layered.finalizing ⟨0, 0⟩
      let registered := layered.pending ++ run.events.filterMap Finalizing.Event.deferred?
      layered.finalize ⟨0, 0⟩ = (run.clock, run.op, .done ()) ∧ run.op.Settled ∧
        registered.length = 6 ∧ run.events = Finalizing.Event.turns layered.rich 0 registered ∧
        run.events.map Finalizing.Event.number = [0, 0, 0, 1, 1, 1, 2, 2, 3, 3, 3, 4, 4, 5] := by
  have calm : layered.Calm := by decide +kernel
  have flat : layered.Within Action.flat := by decide +kernel
  obtain ⟨same, -, -, settled, -, order⟩ := finalize_runs_each_once calm ⟨0, 0⟩
  exact ⟨calm, flat, same, settled, by decide +kernel, order flat, by decide +kernel⟩

/-- A script that finalizes its operation itself lets the one it has deferred run in between, and
before the other that waited from the start. -/
example :
    let op : Operation :=
      { kind := "http", label := "GET /"
        pending := [[.defer [.label "inner"], .finalize, .label "outer"], [.label "last"]] }
    (op.finalizing ⟨0, 0⟩).events.map Finalizing.Event.number = [0, 0, 0, 2, 2, 0, 1, 1] := by
  decide +kernel

end

end Operation
end SpanCapture
