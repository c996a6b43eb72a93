import Mathlib.Logic.Relation
import SpanCapture.Proofs.Delivery.Calls
import SpanCapture.Proofs.Recorder.Calls
import SpanCapture.Proofs.Service.Slots
import SpanCapture.Service.Watchdog

/-! Calls on a service, and what they come to. Whatever a call does to contexts, clock and
dispatcher is a row of events: a call on the recorder of one context, a completed trace being
finished, a context opened or closed, a call on the dispatcher, time going by. What every event
keeps holds along every run. -/
namespace SpanCapture
namespace Service

inductive Call where
  | newContext
  | dropContext (id : Nat)
  | enter (id : Nat) (op : Operation)
  | exit (id : Nat)
  | discard (id frame : Nat)
  | dump (id : Nat)
  | setHint (id : Nat) (key : String) (value : Value)
  | setHintObject (id : Nat) (key object : String)
  | setHintAtRoot (id : Nat) (key : String) (value : Value)
  /-- Changes the current operation of a context in whatever way. -/
  | change (id : Nat) (f : Operation → Operation)
  | act (id : Nat) (action : Action)
  | probe (id : Nat) (probe : Probe)
  /-- A sweep of the watchdog, with the contexts in use by somebody. -/
  | sweep (now : Nat) (held : List Nat)
  /-- Time goes by. -/
  | wait (nanos : Nat)
  | register (receiver : Receiver)
  | unregister (handle : Nat)
  | clear (handle : Nat)
  /-- Changes settings or strategies in whatever way. -/
  | settings (change : Switchboard → Switchboard)

inductive Answer where
  | context (id : Nat)
  | entered (id : Nat)
  | exited (info : Option FrameEntry)
  | flag (done : Bool)
  | reply (reply : Option Reply)
  | swept (report : SweepReport)
  | handle (handle : Nat)
  | nothing

def Answer.ofReply : Option (Outcome Reply) → Outcome Answer
  | none => .done (.reply none)
  | some outcome => outcome.map fun reply => .reply (some reply)

def edit (id : Nat) (f : Recorder → Recorder) (s : Service) : Service :=
  (s.withRecorder id () fun recorder => ((), f recorder)).2

def step (s : Service) : Call → Outcome Answer × Service
  | .newContext =>
    let (id, s) := s.newContext
    (.done (.context id), s)
  | .dropContext id => (.done .nothing, s.dropContext id)
  | .enter id op =>
    let (outcome, s) := s.enter id op
    (outcome.map .entered, s)
  | .exit id =>
    let (outcome, s) := s.exit id
    (outcome.map .exited, s)
  | .discard id frame =>
    let (done, s) := s.discard id frame
    (.done (.flag done), s)
  | .dump id =>
    let (done, s) := s.withRecorder id false Recorder.dump
    (.done (.flag done), s)
  | .setHint id key value => (.done .nothing, s.setHint id key value)
  | .setHintObject id key object => (.done .nothing, s.edit id (·.setHintObject key object))
  | .setHintAtRoot id key value =>
    let (done, s) := s.withRecorder id false (·.setHintAtRoot key value)
    (.done (.flag done), s)
  | .change id f => (.done .nothing, s.edit id (·.withOperation f))
  | .act id action =>
    let (outcome, s) := s.act id action
    (Answer.ofReply outcome, s)
  | .probe id probe =>
    let ((verdict, _), s) := s.shouldCollect id probe
    (.done (.flag verdict), s)
  | .sweep now held =>
    let (outcome, s) := s.sweep now held
    (outcome.map .swept, s)
  | .wait nanos => (.done .nothing, { s with clock := s.clock.advance nanos })
  | .register receiver =>
    let (handle, s) := s.register receiver
    (.done (.handle handle), s)
  | .unregister handle =>
    let (done, dispatcher) := s.dispatcher.unregister handle
    (.done (.flag done), s.withDispatcher dispatcher)
  | .clear handle => (.done .nothing, s.withDispatcher (s.dispatcher.clear handle))
  | .settings change => (.done .nothing, s.withBoard (change s.board))

def record (id : Nat) (r : Recorder) (call : Recorder.Call) (s : Service) : Service :=
  { s with clock := (Recorder.step ⟨s.clock, r⟩ call).2.clock }.setRecorder id
    (Recorder.step ⟨s.clock, r⟩ call).2.recorder

inductive Event (s : Service) : Service → Prop
  | opened : Event s s.newContext.2
  | dropped (id : Nat) : Event s (s.dropContext id)
  | recorded {id : Nat} {r : Recorder} (known : s.recorder? id = some r) (call : Recorder.Call) :
      Event s (s.record id r call)
  | completed {id : Nat} {r : Recorder} {trace : CompletedTrace}
      (known : s.recorder? id = some r) (call : Recorder.Call)
      (done : Recorder.Answer.completed? (Recorder.step ⟨s.clock, r⟩ call).1 = some trace) :
      Event s ((s.record id r call).finish trace).2
  | passed (nanos : Nat) : Event s { s with clock := s.clock.advance nanos }
  | registered (receiver : Receiver) : Event s (s.register receiver).2
  | unregistered (handle : Nat) : Event s (s.withDispatcher (s.dispatcher.unregister handle).2)
  | emptied (handle : Nat) : Event s (s.withDispatcher (s.dispatcher.clear handle))
  | board (board : Switchboard) : Event s (s.withBoard board)

abbrev Events : Service → Service → Prop := Relation.ReflTransGen Event

section
variable {s : Service} {id other : Nat} {r : Recorder}

theorem recorder?_setRecorder_self (known : s.recorder? id = some r) (r' : Recorder) :
    (s.setRecorder id r').recorder? id = some r' := by
  change (s.contexts.modify id fun _ => r').find? id = some r'
  rw [Slots.find?_modify_self]
  change (s.recorder? id).map _ = _
  rw [known, Option.map_some]

theorem recorder?_setRecorder_of_ne (h : other ≠ id) (s : Service) (r : Recorder) :
    (s.setRecorder id r).recorder? other = s.recorder? other :=
  Slots.find?_modify_of_ne h (fun _ => r) s.contexts

theorem modify_modify (id : Nat) (a b : Recorder) (table : Slots Recorder) :
    (table.modify id fun _ => a).modify id (fun _ => b) = table.modify id fun _ => b := by
  simp only [Slots.modify, List.map_map]
  congr 1
  funext slot
  cases slot with
  | none => rfl
  | some entry => by_cases here : entry.1 = id <;> simp [here]

theorem setRecorder_setRecorder (id : Nat) (a b : Recorder) (s : Service) :
    (s.setRecorder id a).setRecorder id b = s.setRecorder id b := by
  simp only [setRecorder, modify_modify]

theorem setRecorder_self (unique : s.contexts.keys.Nodup) (known : s.recorder? id = some r) :
    s.setRecorder id r = s := by
  have same := Slots.modify_eq_self unique known
  rw [setRecorder, same]

theorem withRecorder_unknown {β : Type} {default : β} {f : Recorder → β × Recorder}
    (unknown : s.recorder? id = none) : s.withRecorder id default f = (default, s) := by
  simp only [withRecorder, unknown]

theorem withRecorder_known {β : Type} {default : β} {f : Recorder → β × Recorder}
    (known : s.recorder? id = some r) :
    s.withRecorder id default f = ((f r).1, s.setRecorder id (f r).2) := by
  simp only [withRecorder, known]

theorem recorder?_withRecorder_of_ne {β : Type} (h : other ≠ id) (default : β)
    (f : Recorder → β × Recorder) (s : Service) :
    (s.withRecorder id default f).2.recorder? other = s.recorder? other := by
  cases known : s.recorder? id with
  | none => rw [withRecorder_unknown known]
  | some r => rw [withRecorder_known known, recorder?_setRecorder_of_ne h]

/-- Finishing a trace touches no context. -/
theorem finish_leaves (completed : CompletedTrace) (s : Service) :
    (s.finish completed).2.contexts = s.contexts ∧
      (s.finish completed).2.nextContext = s.nextContext ∧
      (s.finish completed).2.config = s.config := by
  unfold finish
  dsimp only
  split <;> exact ⟨rfl, rfl, rfl⟩

theorem recorder?_finish (completed : CompletedTrace) (s : Service) (id : Nat) :
    (s.finish completed).2.recorder? id = s.recorder? id := by
  rw [recorder?, (finish_leaves completed s).1]
  rfl

theorem recorder?_record (known : s.recorder? id = some r) (call : Recorder.Call) :
    (s.record id r call).recorder? id = some (Recorder.step ⟨s.clock, r⟩ call).2.recorder :=
  recorder?_setRecorder_self (s := { s with clock := (Recorder.step ⟨s.clock, r⟩ call).2.clock })
    known _

theorem recorder?_record_of_ne (h : other ≠ id) (s : Service) (r : Recorder)
    (call : Recorder.Call) : (s.record id r call).recorder? other = s.recorder? other :=
  recorder?_setRecorder_of_ne h { s with clock := (Recorder.step ⟨s.clock, r⟩ call).2.clock } _

inductive Exits (s : Service) (id : Nat) (r : Recorder) :
    Outcome (Option FrameEntry) × Service → Prop
  | crashed {message : String} : (r.exit s.clock).2.2 = .crashed message →
      Exits s id r (.crashed message, s.record id r .exit)
  | idle : (r.exit s.clock).2.2 = .done none → Exits s id r (.done none, s.record id r .exit)
  | inner {info : FrameEntry} : (r.exit s.clock).2.2 = .done (some ⟨info, none⟩) →
      Exits s id r (.done (some info), s.record id r .exit)
  | root {info : FrameEntry} {trace : CompletedTrace} :
      (r.exit s.clock).2.2 = .done (some ⟨info, some trace⟩) →
      Exits s id r (((s.record id r .exit).finish trace).1.map fun _ => some info,
        ((s.record id r .exit).finish trace).2)

theorem exits (known : s.recorder? id = some r) : Exits s id r (s.exit id) := by
  generalize result : s.exit id = exited
  unfold exit at result
  rw [known] at result
  dsimp only at result
  split at result
  · rename_i message crashed
    exact result ▸ .crashed crashed
  · rename_i idle
    exact result ▸ .idle idle
  · rename_i left answered
    obtain ⟨info, completed⟩ := left
    cases completed with
    | none => exact result ▸ .inner answered
    | some trace => exact result ▸ .root answered

inductive Visits (now : Nat) (s : Service) (id : Nat) (r : Recorder) : Outcome Bool × Service → Prop
  | crashed {message : String} : (r.unwind s.maxAge now s.clock).2.2 = .crashed message →
      Visits now s id r (.crashed message, s.record id r (.unwind s.maxAge now))
  | spared : (r.unwind s.maxAge now s.clock).2.2 = .done none →
      Visits now s id r (.done false, s.record id r (.unwind s.maxAge now))
  | unwound {trace : CompletedTrace} : (r.unwind s.maxAge now s.clock).2.2 = .done (some trace) →
      Visits now s id r (((s.record id r (.unwind s.maxAge now)).finish trace).1.map fun _ => true,
        ((s.record id r (.unwind s.maxAge now)).finish trace).2)

theorem visits (now id : Nat) (r : Recorder) (s : Service) :
    Visits now s id r (s.visit now id r) := by
  generalize result : s.visit now id r = visited
  unfold visit at result
  dsimp only at result
  split at result
  · rename_i message crashed
    exact result ▸ .crashed crashed
  · rename_i spared
    exact result ▸ .spared spared
  · rename_i trace unwound
    exact result ▸ .unwound unwound

theorem recorder?_visit_of_ne (h : other ≠ id) (now : Nat) (r : Recorder) (s : Service) :
    (s.visit now id r).2.recorder? other = s.recorder? other := by
  have visited := visits now id r s
  generalize s.visit now id r = result at visited
  cases visited with
  | crashed => exact recorder?_record_of_ne h s r _
  | spared => exact recorder?_record_of_ne h s r _
  | unwound => exact (recorder?_finish _ _ _).trans (recorder?_record_of_ne h s r _)

theorem events_withRecorder {β : Type} (id : Nat) (default : β) {f : Recorder → β × Recorder}
    (call : Recorder.Call) (same : ∀ clock r, (Recorder.step ⟨clock, r⟩ call).2 = ⟨clock, (f r).2⟩)
    (s : Service) : Events s (s.withRecorder id default f).2 := by
  cases known : s.recorder? id with
  | none => rw [withRecorder_unknown known]
  | some r =>
      have recorded := Event.recorded known call
      rw [record, same] at recorded
      rw [withRecorder_known known]
      exact .single recorded

def downgraded (r : Recorder) : Recorder :=
  (r.setHint HintName.onlyEndpoints (.bool true)).setHint HintName.collectionLevel (.text "low")

/-- Deciding about a root changes the switchboard, and the recorder if it is downgraded. -/
theorem decideRoot_cases (id : Nat) (r : Recorder) (s : Service) :
    ∃ board, s.decideRoot id r = s.withBoard board ∨
      s.decideRoot id r = (s.withBoard board).setRecorder id (downgraded r) := by
  unfold decideRoot
  dsimp only
  split
  · exact ⟨_, .inr rfl⟩
  · exact ⟨_, .inl rfl⟩

inductive Enters (s : Service) (id : Nat) (op : Operation) (r : Recorder) :
    Outcome Nat × Service → Prop
  | plain : Enters s id op r ((r.enter s.clock op).1, s.record id r (.enter op))
  | decided (board : Switchboard) :
      Enters s id op r ((r.enter s.clock op).1, (s.record id r (.enter op)).withBoard board)
  | downgraded (board : Switchboard) :
      Enters s id op r ((r.enter s.clock op).1,
        ((s.record id r (.enter op)).withBoard board).setRecorder id
          (downgraded (r.enter s.clock op).2))

theorem enters (known : s.recorder? id = some r) (op : Operation) :
    Enters s id op r (s.enter id op) := by
  simp only [enter, known]
  split
  · obtain ⟨board, decided | decided⟩ := decideRoot_cases id (r.enter s.clock op).2
      (s.setRecorder id (r.enter s.clock op).2)
    · rw [decided]
      exact .decided board
    · rw [decided]
      exact .downgraded board
  · exact .plain

theorem enter_unknown (unknown : s.recorder? id = none) (op : Operation) :
    s.enter id op = (.done 0, s) := by
  simp only [enter, unknown]

theorem exit_unknown (unknown : s.recorder? id = none) : s.exit id = (.done none, s) := by
  simp only [exit, unknown]

theorem events_downgraded (known : s.recorder? id = some r) :
    Events s (s.setRecorder id (downgraded r)) := by
  have first : Event s (s.setRecorder id (r.setHint HintName.onlyEndpoints (.bool true))) :=
    .recorded known (.setHint HintName.onlyEndpoints (.bool true))
  have second := Event.recorded
    (recorder?_setRecorder_self known (r.setHint HintName.onlyEndpoints (.bool true)))
    (.setHint HintName.collectionLevel (.text "low"))
  change Event _ ((s.setRecorder id _).setRecorder id (downgraded r)) at second
  rw [setRecorder_setRecorder] at second
  exact .tail (.single first) second

theorem events_enter (id : Nat) (op : Operation) (s : Service) : Events s (s.enter id op).2 := by
  cases known : s.recorder? id with
  | none => rw [enter_unknown known]
  | some r =>
      have recorded : Events s (s.record id r (.enter op)) := .single (.recorded known _)
      have here := recorder?_record known (.enter op)
      have entered := enters known op
      generalize s.enter id op = result at entered
      cases entered with
      | plain => exact recorded
      | decided board => exact recorded.tail (.board board)
      | downgraded board => exact (recorded.tail (.board board)).trans (events_downgraded here)

theorem events_exit (id : Nat) (s : Service) : Events s (s.exit id).2 := by
  cases known : s.recorder? id with
  | none => rw [exit_unknown known]
  | some r =>
      have recorded : Events s (s.record id r .exit) := .single (.recorded known _)
      have left := exits known
      generalize s.exit id = result at left
      cases left with
      | crashed => exact recorded
      | idle => exact recorded
      | inner => exact recorded
      | root answered =>
          refine .single (.completed known .exit ?_)
          change Recorder.Answer.completed? ((r.exit s.clock).2.2.map .exited) = _
          rw [answered]
          rfl

theorem events_act (id : Nat) (action : Action) (s : Service) :
    Events s (s.act id action).2 := by
  cases known : s.recorder? id with
  | none =>
      simp only [act, known]
      exact .refl
  | some r =>
      simp only [act, known]
      exact .single (.recorded known (.act action))

theorem events_visit (known : s.recorder? id = some r) (now : Nat) :
    Events s (s.visit now id r).2 := by
  have recorded : Events s (s.record id r (.unwind s.maxAge now)) := .single (.recorded known _)
  have visited := visits now id r s
  generalize s.visit now id r = result at visited
  cases visited with
  | crashed => exact recorded
  | spared => exact recorded
  | unwound answered =>
      refine .single (.completed known (.unwind s.maxAge now) ?_)
      change Recorder.Answer.completed? ((r.unwind s.maxAge now s.clock).2.2.map .unwound) = _
      rw [answered]
      rfl

theorem ne_of_not_mem {rest : List (Nat × Recorder)} {entry : Nat × Recorder}
    (absent : id ∉ rest.map Prod.fst) (member : entry ∈ rest) : entry.1 ≠ id := by
  intro same
  have known := List.mem_map_of_mem (f := Prod.fst) member
  rw [same] at known
  exact absent known

/-- A visit leaves the contexts still to be visited as they were. -/
theorem agrees_visit {rest : List (Nat × Recorder)} (apart : id ∉ rest.map Prod.fst)
    (agrees : ∀ entry ∈ rest, s.recorder? entry.1 = some entry.2) (now : Nat) (r : Recorder) :
    ∀ entry ∈ rest, (s.visit now id r).2.recorder? entry.1 = some entry.2 := by
  intro entry member
  rw [recorder?_visit_of_ne (ne_of_not_mem apart member)]
  exact agrees entry member

/-- What every visit keeps, a row of visits keeps. -/
theorem sweepThrough_keeps {P : Service → Prop} {now : Nat} {rest : List (Nat × Recorder)}
    (keeps : ∀ s id r, (id, r) ∈ rest → s.recorder? id = some r → P s → P (s.visit now id r).2)
    (held : List Nat) (report : SweepReport) (unique : (rest.map Prod.fst).Nodup)
    (agrees : ∀ entry ∈ rest, s.recorder? entry.1 = some entry.2) (h : P s) :
    P (sweepThrough now held report rest s).2 := by
  induction rest generalizing s report with
  | nil => exact h
  | cons entry rest ih =>
      obtain ⟨id, r⟩ := entry
      obtain ⟨apart, others⟩ := List.nodup_cons.mp unique
      obtain ⟨here, later⟩ := List.forall_mem_cons.mp agrees
      have below := fun s id r member => keeps s id r (List.mem_cons_of_mem _ member)
      unfold sweepThrough
      dsimp only
      split
      · exact ih below _ others later h
      · have visited := keeps s id r List.mem_cons_self here h
        have elsewhere := agrees_visit apart later now r
        split
        · rename_i message s' crashed
          rwa [crashed] at visited
        · rename_i unwound s' done
          rw [done] at visited elsewhere
          exact ih below _ others elsewhere visited

/-- What every visit keeps, a sweep keeps. Each recorder is visited as it was when the sweep began. -/
theorem sweep_keeps {P : Service → Prop} {now : Nat}
    (keeps : ∀ later id r, s.recorder? id = some r → later.recorder? id = some r → P later →
      P (later.visit now id r).2)
    (sound : s.contexts.Sound) (held : List Nat) (h : P s) : P (s.sweep now held).2 := by
  have agrees : ∀ entry ∈ s.contexts.entries, s.recorder? entry.1 = some entry.2 :=
    fun entry member => (Slots.find?_eq_some_iff sound.unique).mpr member
  exact sweepThrough_keeps (fun later id r member => keeps later id r (agrees (id, r) member))
    held {} sound.unique agrees h

theorem events_sweep (sound : s.contexts.Sound) (now : Nat) (held : List Nat) :
    Events s (s.sweep now held).2 :=
  sweep_keeps (P := Events s) (fun _ _ _ _ known before => before.trans (events_visit known now))
    sound held .refl

/-- Every call is a row of events. -/
theorem events_step (sound : s.contexts.Sound) (call : Call) : Events s (step s call).2 := by
  cases call with
  | newContext => exact .single .opened
  | dropContext id => exact .single (.dropped id)
  | enter id op => exact events_enter id op s
  | exit id => exact events_exit id s
  | discard id frame => exact events_withRecorder id false (.discard frame) (fun _ _ => rfl) s
  | dump id => exact events_withRecorder (f := Recorder.dump) id false .dump (fun _ _ => rfl) s
  | setHint id key value => exact events_withRecorder id () (.setHint key value) (fun _ _ => rfl) s
  | setHintObject id key object =>
      exact events_withRecorder id () (.setHintObject key object) (fun _ _ => rfl) s
  | setHintAtRoot id key value =>
      exact events_withRecorder id false (.setHintAtRoot key value) (fun _ _ => rfl) s
  | change id f => exact events_withRecorder id () (.change f) (fun _ _ => rfl) s
  | act id action => exact events_act id action s
  | probe id probe => exact .single (.board _)
  | sweep now held => exact events_sweep sound now held
  | wait nanos => exact .single (.passed nanos)
  | register receiver => exact .single (.registered receiver)
  | unregister handle => exact .single (.unregistered handle)
  | clear handle => exact .single (.emptied handle)
  | settings change => exact .single (.board _)

/-- Contexts are found by numbers given out so far, and each by one. -/
structure Sound (s : Service) : Prop where
  table : s.contexts.Sound
  numbered : ∀ id ∈ s.contexts.keys, id < s.nextContext

theorem Sound.setRecorder (h : s.Sound) (id : Nat) (r : Recorder) : (s.setRecorder id r).Sound := by
  refine ⟨h.table.modify id fun _ => r, ?_⟩
  intro other member
  change other ∈ Slots.keys (s.contexts.modify id fun _ => r) at member
  rw [Slots.keys_modify] at member
  exact h.numbered other member

theorem Sound.fresh (h : s.Sound) : s.nextContext ∉ s.contexts.keys := fun member =>
  Nat.lt_irrefl _ (h.numbered _ member)

theorem Sound.newContext (h : s.Sound) : s.newContext.2.Sound := by
  refine ⟨h.table.insert h.fresh, ?_⟩
  intro id member
  rcases (Slots.mem_keys_insert h.table).mp member with same | known
  · exact same ▸ Nat.lt_succ_self _
  · exact Nat.lt_succ_of_lt (h.numbered id known)

theorem Sound.dropContext (h : s.Sound) (id : Nat) : (s.dropContext id).Sound := by
  refine ⟨h.table.erase id, ?_⟩
  intro other member
  change other ∈ Slots.keys (s.contexts.erase id) at member
  rw [Slots.keys, Slots.entries_erase] at member
  exact h.numbered other ((List.filter_sublist.map Prod.fst).subset member)

theorem Sound.finish (h : s.Sound) (completed : CompletedTrace) : (s.finish completed).2.Sound := by
  obtain ⟨contexts, next, -⟩ := finish_leaves completed s
  constructor
  · rw [contexts]
    exact h.table
  · rw [contexts, next]
    exact h.numbered

theorem Sound.event (h : s.Sound) {s' : Service} (event : Event s s') : s'.Sound := by
  have recorded (id : Nat) (r : Recorder) (call : Recorder.Call) : (s.record id r call).Sound :=
    Sound.setRecorder (s := { s with clock := (Recorder.step ⟨s.clock, r⟩ call).2.clock })
      ⟨h.table, h.numbered⟩ id _
  cases event with
  | opened => exact h.newContext
  | dropped id => exact h.dropContext id
  | recorded known call => exact recorded _ _ call
  | completed known call done => exact (recorded _ _ call).finish _
  | passed => exact ⟨h.table, h.numbered⟩
  | registered => exact ⟨h.table, h.numbered⟩
  | unregistered => exact ⟨h.table, h.numbered⟩
  | emptied => exact ⟨h.table, h.numbered⟩
  | board => exact ⟨h.table, h.numbered⟩

theorem Sound.step (h : s.Sound) (call : Call) : (step s call).2.Sound := by
  have events := events_step h.table call
  generalize (Service.step s call).2 = s' at events
  induction events with
  | refl => exact h
  | tail _ event ih => exact ih.event event

theorem buffer_registered (receivers : List Receiver) {d : Dispatcher} (h : d.buffer = []) :
    (receivers.foldl (fun d r => (d.register r).2) d).buffer = [] := by
  induction receivers generalizing d with
  | nil => exact h
  | cons receiver rest ih => exact ih (Dispatcher.buffer_register receiver d)

/-- A service just built has no context and nothing waiting. -/
theorem build_cases {setup : Setup} {s : Service} (built : Service.build setup = .done (.ok s)) :
    s.contexts = [] ∧ s.dispatcher.buffer = [] := by
  unfold build at built
  split at built
  · cases built
  · rename_i config valid
    dsimp only at built
    unfold Dispatcher.create at built
    split at built
    · cases built
    · split at built
      · cases built
      · cases built
        exact ⟨rfl, buffer_registered setup.receivers rfl⟩

theorem recorder?_build {setup : Setup} (built : Service.build setup = .done (.ok s)) (id : Nat) :
    s.recorder? id = none := by
  rw [recorder?, (build_cases built).1]
  rfl

theorem sound_build {setup : Setup} (built : Service.build setup = .done (.ok s)) : s.Sound := by
  have none := (build_cases built).1
  constructor
  · rw [none]
    exact ⟨.nil, Nat.le_refl _⟩
  · rw [none]
    exact nofun

end

end Service

/-- A service with the default limits, for traces nobody can name. -/
def Setup.plain : Setup where
  config := { diagnoseUnknown := true }
  clock := ⟨0, 0⟩
  threadName := none
  threadId := "main"
  callStack := []
  freshIds n := toString n

end SpanCapture
