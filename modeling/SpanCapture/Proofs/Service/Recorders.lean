import SpanCapture.Proofs.Service.Calls

/-! What becomes of the recorder of one context. A call on the context does to it what the
recorder does, calls on other contexts leave it alone, and a sweep either clears it or leaves
it alone. -/
namespace SpanCapture
namespace Service

section
variable {s : Service} {id other : Nat} {r : Recorder}

/-- Opening a frame answers as the recorder does, and leaves its recorder, maybe downgraded. -/
theorem recorder?_enter (known : s.recorder? id = some r) (op : Operation) :
    (s.enter id op).1 = (r.enter s.clock op).1 ∧
      ((s.enter id op).2.recorder? id = some (r.enter s.clock op).2 ∨
        (s.enter id op).2.recorder? id = some (downgraded (r.enter s.clock op).2)) := by
  have here := recorder?_record known (.enter op)
  have entered := enters known op
  generalize s.enter id op = result at entered
  cases entered with
  | plain => exact ⟨rfl, .inl here⟩
  | decided board => exact ⟨rfl, .inl here⟩
  | downgraded board =>
      refine ⟨rfl, .inr ?_⟩
      exact recorder?_setRecorder_self (s := (s.record id r (.enter op)).withBoard board) here _

theorem recorder?_enter_of_ne (h : other ≠ id) (op : Operation) (s : Service) :
    (s.enter id op).2.recorder? other = s.recorder? other := by
  cases known : s.recorder? id with
  | none => rw [enter_unknown known]
  | some r =>
      have recorded := recorder?_record_of_ne h s r (.enter op)
      have entered := enters known op
      generalize s.enter id op = result at entered
      cases entered with
      | plain => exact recorded
      | decided board => exact recorded
      | downgraded board => exact (recorder?_setRecorder_of_ne h _ _).trans recorded

theorem recorder?_exit (known : s.recorder? id = some r) :
    (s.exit id).2.recorder? id = some (r.exit s.clock).2.1 := by
  have here := recorder?_record known .exit
  have left := exits known
  generalize s.exit id = result at left
  cases left with
  | crashed => exact here
  | idle => exact here
  | inner => exact here
  | root => exact (recorder?_finish _ _ id).trans here

theorem recorder?_exit_of_ne (h : other ≠ id) (s : Service) :
    (s.exit id).2.recorder? other = s.recorder? other := by
  cases known : s.recorder? id with
  | none => rw [exit_unknown known]
  | some r =>
      have recorded := recorder?_record_of_ne h s r .exit
      have left := exits known
      generalize s.exit id = result at left
      cases left with
      | crashed => exact recorded
      | idle => exact recorded
      | inner => exact recorded
      | root => exact (recorder?_finish _ _ other).trans recorded

/-- Closing a frame answers with what the recorder closed, unless something crashes. -/
theorem exit_answer (known : s.recorder? id = some r) (calm : (s.exit id).1.isDone) :
    ∃ left, (r.exit s.clock).2.2 = .done left ∧ (s.exit id).1 = .done (left.map Exited.info) := by
  have left := exits known
  generalize s.exit id = result at left calm
  cases left with
  | crashed => cases calm
  | idle answered => exact ⟨_, answered, rfl⟩
  | inner answered => exact ⟨_, answered, rfl⟩
  | @root info trace answered =>
      refine ⟨_, answered, ?_⟩
      cases finished : ((s.record id r .exit).finish trace).1 with
      | crashed message => rw [finished] at calm; cases calm
      | done => rfl

theorem act_unknown (unknown : s.recorder? id = none) (action : Action) :
    s.act id action = (none, s) := by
  simp only [act, unknown]

theorem recorder?_act (known : s.recorder? id = some r) (action : Action) :
    (s.act id action).2.recorder? id = some (r.act s.clock action).2.1 := by
  simp only [act, known]
  exact recorder?_record known (.act action)

theorem recorder?_act_of_ne (h : other ≠ id) (action : Action) (s : Service) :
    (s.act id action).2.recorder? other = s.recorder? other := by
  cases known : s.recorder? id with
  | none => rw [act_unknown known]
  | some r =>
      simp only [act, known]
      exact recorder?_record_of_ne h s r (.act action)

/-- Whether a sweep unwinds a context: nobody is at work in it, and its current frame has been
open for too long. -/
def unwinds (now : Nat) (held : List Nat) (id : Nat) (r : Recorder) (s : Service) : Bool :=
  !(held.contains id && r.isBuilding) && r.isDue s.maxAge now

theorem config_visit (now id : Nat) (r : Recorder) (s : Service) :
    (s.visit now id r).2.config = s.config := by
  have visited := visits now id r s
  generalize s.visit now id r = result at visited
  cases visited with
  | crashed => rfl
  | spared => rfl
  | unwound => exact (finish_leaves _ _).2.2

theorem recorder?_visit_self (known : s.recorder? id = some r) (now : Nat) :
    (s.visit now id r).2.recorder? id = some (r.unwind s.maxAge now s.clock).2.1 := by
  have here := recorder?_record known (.unwind s.maxAge now)
  have visited := visits now id r s
  generalize s.visit now id r = result at visited
  cases visited with
  | unwound => exact (recorder?_finish _ _ id).trans here
  | _ => exact here

/-- A visit clears the recorder of a context that is due and leaves any other. -/
theorem recorder?_visit (known : s.recorder? id = some r) (now : Nat)
    (calm : (s.visit now id r).1.isDone) :
    (s.visit now id r).2.recorder? id = some (if r.isDue s.maxAge now then r.cleared else r) := by
  have unwound : (r.unwind s.maxAge now s.clock).2.2.isDone →
      (r.unwind s.maxAge now s.clock).2.1 = if r.isDue s.maxAge now then r.cleared else r := by
    intro done
    cases due : r.isDue s.maxAge now with
    | false =>
        rw [Recorder.unwind_of_not_due due]
        rfl
    | true =>
        obtain ⟨trace, -, cleared⟩ := Recorder.unwind_completes due done
        exact cleared
  refine (recorder?_visit_self known now).trans (congrArg some (unwound ?_))
  have visited := visits now id r s
  generalize s.visit now id r = result at visited calm
  cases visited with
  | crashed => cases calm
  | spared answered =>
      rw [answered]
      rfl
  | unwound answered =>
      rw [answered]
      rfl

theorem unwinds_visit (now : Nat) (held : List Nat) (id other : Nat) (r r' : Recorder)
    (s : Service) : (s.visit now id r).2.unwinds now held other r' = s.unwinds now held other r' := by
  rw [unwinds, unwinds, maxAge, maxAge, config_visit]

theorem recorder?_sweepThrough_of_not_mem (now : Nat) (held : List Nat) (report : SweepReport)
    {rest : List (Nat × Recorder)} (absent : id ∉ rest.map Prod.fst) (s : Service) :
    (sweepThrough now held report rest s).2.recorder? id = s.recorder? id := by
  induction rest generalizing s report with
  | nil => rfl
  | cons entry rest ih =>
      obtain ⟨first, r⟩ := entry
      rw [List.map_cons, List.mem_cons, not_or] at absent
      have spared := recorder?_visit_of_ne absent.1 now r s
      unfold sweepThrough
      dsimp only
      split
      · exact ih _ absent.2 s
      · split
        · rename_i message s' crashed
          rwa [crashed] at spared
        · rename_i unwound s' done
          rw [done] at spared
          exact (ih _ absent.2 s').trans spared

/-- Each context on the way is visited once. -/
theorem recorder?_sweepThrough (now : Nat) (held : List Nat) (report : SweepReport)
    {rest : List (Nat × Recorder)} (unique : (rest.map Prod.fst).Nodup)
    (agrees : ∀ entry ∈ rest, s.recorder? entry.1 = some entry.2)
    (calm : (sweepThrough now held report rest s).1.isDone) (member : (id, r) ∈ rest) :
    (sweepThrough now held report rest s).2.recorder? id =
      some (if s.unwinds now held id r then r.cleared else r) := by
  induction rest generalizing s report with
  | nil => cases member
  | cons entry rest ih =>
      obtain ⟨first, top⟩ := entry
      obtain ⟨apart, others⟩ := List.nodup_cons.mp unique
      obtain ⟨here, later⟩ := List.forall_mem_cons.mp agrees
      have elsewhere := agrees_visit apart later now top
      have kept := fun r' => unwinds_visit now held first id top r' s
      unfold sweepThrough at calm ⊢
      dsimp only at calm ⊢
      split at calm
      · rename_i busy
        rw [if_pos busy]
        rcases List.mem_cons.mp member with same | member
        · cases same
          rw [recorder?_sweepThrough_of_not_mem now held _ apart, here, unwinds, busy]
          rfl
        · exact ih _ others later calm member
      · rename_i free
        rw [if_neg free]
        have visited := recorder?_visit here now
        split at calm
        · cases calm
        · rename_i unwound s' done
          rw [done] at visited elsewhere kept
          rcases List.mem_cons.mp member with same | member
          · cases same
            have idle : (held.contains id && r.isBuilding) = false := by simpa using free
            rw [recorder?_sweepThrough_of_not_mem now held _ apart, visited rfl, unwinds, idle]
            rfl
          · rw [← kept]
            exact ih _ others elsewhere calm member

theorem recorder?_sweep (sound : s.contexts.Sound) (known : s.recorder? id = some r) {now : Nat}
    {held : List Nat} (calm : (s.sweep now held).1.isDone) :
    (s.sweep now held).2.recorder? id =
      some (if s.unwinds now held id r then r.cleared else r) := by
  refine recorder?_sweepThrough now held {} sound.unique ?_ calm (Slots.mem_of_find? known)
  intro entry member
  exact (Slots.find?_eq_some_iff sound.unique).mpr member

theorem recorder?_sweep_unknown (unknown : s.recorder? id = none) (now : Nat) (held : List Nat) :
    (s.sweep now held).2.recorder? id = none := by
  refine (recorder?_sweepThrough_of_not_mem now held {} ?_ s).trans unknown
  intro member
  obtain ⟨entry, inside, same⟩ := List.mem_map.mp member
  rw [recorder?, Slots.find?, Option.map_eq_none_iff, List.find?_eq_none] at unknown
  exact unknown entry inside (by simpa using same)

/-- A new context has a new recorder, and the others keep theirs. -/
theorem recorder?_newContext (h : s.Sound) (id : Nat) :
    s.newContext.2.recorder? id = if id = s.nextContext then
      some {
        limits := s.config.limits, analyzers := s.analyzers
        identity := ⟨s.nextContext, s.threadName, s.threadId⟩ }
      else s.recorder? id := by
  change (s.contexts.insert s.nextContext _).find? id = _
  split
  · rename_i same
    rw [same, Slots.find?_insert_self h.table h.fresh]
  · rename_i differs
    exact Slots.find?_insert_of_ne h.table h.fresh differs

theorem recorder?_dropContext (id : Nat) (s : Service) : (s.dropContext id).recorder? id = none :=
  Slots.find?_erase_self id s.contexts

/-- Who has a recorder after a context was closed had it before. -/
theorem recorder?_of_dropContext (unique : s.contexts.keys.Nodup)
    (known : (s.dropContext id).recorder? other = some r) : s.recorder? other = some r := by
  have member := Slots.mem_of_find? known
  change (other, r) ∈ Slots.entries (s.contexts.erase id) at member
  rw [Slots.entries_erase] at member
  exact (Slots.find?_eq_some_iff unique).mpr (List.mem_filter.mp member).1

end

theorem mem_keys {s : Service} {id : Nat} {r : Recorder} (known : s.recorder? id = some r) :
    id ∈ s.contexts.keys := List.mem_map_of_mem (f := Prod.fst) (Slots.mem_of_find? known)

/-- The context a call is made on, if it may change the recorder there. -/
def Call.target? : Call → Option Nat
  | .dropContext id | .enter id _ | .exit id | .discard id _ | .dump id | .setHint id _ _
  | .setHintObject id _ _ | .setHintAtRoot id _ _ | .change id _ | .act id _ => some id
  | _ => none

def Call.onRecorder? : Call → Option Recorder.Call
  | .enter _ op => some (.enter op)
  | .exit _ => some .exit
  | .discard _ frame => some (.discard frame)
  | .dump _ => some .dump
  | .setHint _ key value => some (.setHint key value)
  | .setHintObject _ key object => some (.setHintObject key object)
  | .setHintAtRoot _ key value => some (.setHintAtRoot key value)
  | .change _ f => some (.change f)
  | .act _ action => some (.act action)
  | _ => none

/-- A call on a context drops it or asks its recorder for something. -/
theorem Call.target?_cases {call : Call} {id : Nat} (here : call.target? = some id) :
    call = .dropContext id ∨ ∃ asked, call.onRecorder? = some asked := by
  cases call with
  | dropContext target => exact .inl (congrArg dropContext (Option.some.inj here))
  | newContext | probe | sweep | wait | register | unregister | clear | settings => cases here
  | _ => exact .inr ⟨_, rfl⟩

inductive Affects (s : Service) (id : Nat) (r : Recorder) : Call → Answer → Recorder → Prop
  | enter {op : Operation} {number : Nat} {r' : Recorder} :
      r.enter s.clock op = (.done number, r') →
      Affects s id r (.enter id op) (.entered number) r'
  | enterDowngraded {op : Operation} {number : Nat} {r' : Recorder} :
      r.enter s.clock op = (.done number, r') →
      Affects s id r (.enter id op) (.entered number) (downgraded r')
  | exit {left : Option Exited} : (r.exit s.clock).2.2 = .done left →
      Affects s id r (.exit id) (.exited (left.map Exited.info)) (r.exit s.clock).2.1
  | discard (frame : Nat) :
      Affects s id r (.discard id frame) (.flag (r.discard frame).1) (r.discard frame).2
  | dump : Affects s id r (.dump id) (.flag r.dump.1) r.cleared
  | setHint (key : String) (value : Value) :
      Affects s id r (.setHint id key value) .nothing (r.setHint key value)
  | setHintObject (key object : String) :
      Affects s id r (.setHintObject id key object) .nothing (r.setHintObject key object)
  | setHintAtRoot (key : String) (value : Value) :
      Affects s id r (.setHintAtRoot id key value) (.flag (r.setHintAtRoot key value).1)
        (r.setHintAtRoot key value).2
  | change (f : Operation → Operation) :
      Affects s id r (.change id f) .nothing (r.withOperation f)
  | act {action : Action} {answer : Answer} :
      Affects s id r (.act id action) answer (r.act s.clock action).2.1
  | sweep {now : Nat} {held : List Nat} {answer : Answer} :
      Affects s id r (.sweep now held) answer (if s.unwinds now held id r then r.cleared else r)
  | other {call : Call} {answer : Answer} : call.target? ≠ some id →
      (∀ now held, call ≠ .sweep now held) → Affects s id r call answer r

section
variable {s : Service} {id : Nat} {r : Recorder} {call : Call} {answer : Answer}

/-- Calls on other contexts, on settings and on the dispatcher leave a context alone. -/
theorem recorder?_step_of_ne (sound : s.Sound) (h : call.target? ≠ some id)
    (awake : ∀ now held, call ≠ .sweep now held) (old : call = .newContext → id ≠ s.nextContext) :
    (step s call).2.recorder? id = s.recorder? id := by
  have apart {target : Nat} (h : some target ≠ some id) : id ≠ target := fun same => h (same ▸ rfl)
  cases call with
  | newContext => exact (recorder?_newContext sound id).trans (if_neg (old rfl))
  | dropContext target => exact Slots.find?_erase_of_ne (apart h) s.contexts
  | enter target op => exact recorder?_enter_of_ne (apart h) op s
  | exit target => exact recorder?_exit_of_ne (apart h) s
  | discard target frame => exact recorder?_withRecorder_of_ne (apart h) _ _ s
  | dump target => exact recorder?_withRecorder_of_ne (apart h) false Recorder.dump s
  | setHint target key value => exact recorder?_withRecorder_of_ne (apart h) _ _ s
  | setHintObject target key object => exact recorder?_withRecorder_of_ne (apart h) _ _ s
  | setHintAtRoot target key value => exact recorder?_withRecorder_of_ne (apart h) _ _ s
  | change target f => exact recorder?_withRecorder_of_ne (apart h) _ _ s
  | act target action => exact recorder?_act_of_ne (apart h) action s
  | sweep now held => exact absurd rfl (awake now held)
  | probe target probe => rfl
  | wait nanos => rfl
  | register receiver => rfl
  | unregister handle => rfl
  | clear handle => rfl
  | settings change => rfl

theorem recorder?_withRecorder {β : Type} (known : s.recorder? id = some r) (default : β)
    (f : Recorder → β × Recorder) :
    (s.withRecorder id default f).2.recorder? id = some (f r).2 := by
  rw [withRecorder_known known]
  exact recorder?_setRecorder_self known _

/-- A call on a context does to its open frames what the recorder does. -/
theorem openFrames_step_target {asked : Recorder.Call} (known : s.recorder? id = some r)
    (here : call.target? = some id) (asks : call.onRecorder? = some asked) :
    ∃ r', (step s call).2.recorder? id = some r' ∧
      r'.openFrames = (Recorder.step ⟨s.clock, r⟩ asked).2.recorder.openFrames := by
  cases call with
  | enter target op =>
      cases here
      cases asks
      rcases (recorder?_enter known op).2 with plain | down
      · exact ⟨_, plain, rfl⟩
      · exact ⟨_, down, rfl⟩
  | exit target =>
      cases here
      cases asks
      exact ⟨_, recorder?_exit known, rfl⟩
  | discard target frame =>
      cases here
      cases asks
      exact ⟨_, recorder?_withRecorder known _ _, rfl⟩
  | dump target =>
      cases here
      cases asks
      exact ⟨_, recorder?_withRecorder known false Recorder.dump, rfl⟩
  | setHint target key value =>
      cases here
      cases asks
      exact ⟨_, recorder?_withRecorder known _ _, rfl⟩
  | setHintObject target key object =>
      cases here
      cases asks
      exact ⟨_, recorder?_withRecorder known _ _, rfl⟩
  | setHintAtRoot target key value =>
      cases here
      cases asks
      exact ⟨_, recorder?_withRecorder known _ _, rfl⟩
  | change target f =>
      cases here
      cases asks
      exact ⟨_, recorder?_withRecorder known _ _, rfl⟩
  | act target action =>
      cases here
      cases asks
      exact ⟨_, recorder?_act known action, rfl⟩
  | _ => cases asks

theorem affects_edit {β : Type} {default : β} {f : Recorder → β × Recorder}
    (known : s.recorder? id = some r) (affected : Affects s id r call answer (f r).2) :
    ∃ r', (s.withRecorder id default f).2.recorder? id = some r' ∧ Affects s id r call answer r' :=
  ⟨(f r).2, recorder?_withRecorder known default f, affected⟩

/-- A context still open after an answered call has a recorder the call can have left. -/
theorem affects (sound : s.Sound) (known : s.recorder? id = some r)
    (answered : (step s call).1 = .done answer) (kept : call ≠ .dropContext id) :
    ∃ r', (step s call).2.recorder? id = some r' ∧ Affects s id r call answer r' := by
  by_cases here : call.target? = some id
  · cases call with
    | dropContext target => exact absurd (congrArg Call.dropContext (Option.some.inj here)) kept
    | enter target op =>
        cases here
        obtain ⟨same, left⟩ := recorder?_enter known op
        change (s.enter id op).1.map Answer.entered = _ at answered
        rw [same] at answered
        cases entered : (r.enter s.clock op).1 with
        | crashed message => rw [entered] at answered; cases answered
        | done number =>
            rw [entered] at answered
            cases answered
            have whole : r.enter s.clock op = (.done number, (r.enter s.clock op).2) :=
              Prod.ext entered rfl
            rcases left with plain | down
            · exact ⟨_, plain, .enter whole⟩
            · exact ⟨_, down, .enterDowngraded whole⟩
    | exit target =>
        cases here
        have calm : (s.exit id).1.isDone := by
          change (s.exit id).1.map Answer.exited = _ at answered
          rw [← Outcome.isDone_map, answered]
          rfl
        obtain ⟨left, closed, same⟩ := exit_answer known calm
        change (s.exit id).1.map Answer.exited = _ at answered
        rw [same] at answered
        cases answered
        exact ⟨_, recorder?_exit known, .exit closed⟩
    | discard target frame =>
        cases here
        change Outcome.done (Answer.flag (s.withRecorder id false _).1) = _ at answered
        rw [withRecorder_known known] at answered
        cases answered
        exact affects_edit known (.discard frame)
    | dump target =>
        cases here
        change Outcome.done (Answer.flag (s.withRecorder id false Recorder.dump).1) = _ at answered
        rw [withRecorder_known known] at answered
        cases answered
        exact affects_edit (f := Recorder.dump) known .dump
    | setHint target key value =>
        cases here
        cases answered
        exact affects_edit known (.setHint key value)
    | setHintObject target key object =>
        cases here
        cases answered
        exact affects_edit known (.setHintObject key object)
    | setHintAtRoot target key value =>
        cases here
        change Outcome.done (Answer.flag (s.withRecorder id false _).1) = _ at answered
        rw [withRecorder_known known] at answered
        cases answered
        exact affects_edit known (.setHintAtRoot key value)
    | change target f =>
        cases here
        cases answered
        exact affects_edit known (.change f)
    | act target action =>
        cases here
        exact ⟨_, recorder?_act known action, .act⟩
    | _ => cases here
  · by_cases awake : ∀ now held, call ≠ .sweep now held
    · refine ⟨r, ?_, .other here awake⟩
      refine (recorder?_step_of_ne sound here awake ?_).trans known
      exact fun _ => Nat.ne_of_lt (sound.numbered id (mem_keys known))
    · obtain ⟨now, held, same⟩ : ∃ now held, call = .sweep now held := by
        cases call with
        | sweep now held => exact ⟨now, held, rfl⟩
        | _ => exact absurd nofun awake
      subst same
      have calm : (s.sweep now held).1.isDone := by
        change (s.sweep now held).1.map Answer.swept = _ at answered
        rw [← Outcome.isDone_map, answered]
        rfl
      exact ⟨_, recorder?_sweep sound.table known calm, .sweep⟩

/-- Calls on a context that is not open come to nothing. -/
theorem step_unknown (unknown : s.recorder? id = none) (here : call.target? = some id)
    (kept : call ≠ .dropContext id) : (step s call).2 = s := by
  cases call with
  | dropContext target => exact absurd (congrArg Call.dropContext (Option.some.inj here)) kept
  | enter target op =>
      cases here
      exact congrArg Prod.snd (enter_unknown unknown op)
  | exit target =>
      cases here
      exact congrArg Prod.snd (exit_unknown unknown)
  | act target action =>
      cases here
      exact congrArg Prod.snd (act_unknown unknown action)
  | discard target frame =>
      cases here
      simp only [step, discard, withRecorder, unknown]
  | dump target =>
      cases here
      simp only [step, withRecorder, unknown]
  | setHint target key value =>
      cases here
      simp only [step, setHint, withRecorder, unknown]
  | setHintObject target key object =>
      cases here
      simp only [step, edit, withRecorder, unknown]
  | setHintAtRoot target key value =>
      cases here
      simp only [step, withRecorder, unknown]
  | change target f =>
      cases here
      simp only [step, edit, withRecorder, unknown]
  | _ => cases here

/-- A context that is not open stays away or opens as the next one, with nothing recorded. -/
theorem recorder?_step_unknown (sound : s.Sound) (unknown : s.recorder? id = none)
    (known : (step s call).2.recorder? id = some r) :
    id = s.nextContext ∧ r.openFrames = [] ∧ r.hints = [] := by
  have absent : s.recorder? id ≠ some r := fun same => nomatch unknown.symm.trans same
  by_cases here : call.target? = some id
  · by_cases kept : call = .dropContext id
    · subst kept
      exact absurd (recorder?_of_dropContext sound.table.unique known) absent
    · rw [step_unknown unknown here kept] at known
      exact absurd known absent
  · by_cases opens : call = .newContext ∧ id = s.nextContext
    · obtain ⟨rfl, rfl⟩ := opens
      refine ⟨rfl, ?_⟩
      change s.newContext.2.recorder? s.nextContext = some r at known
      rw [recorder?_newContext sound, if_pos rfl] at known
      cases known
      exact ⟨rfl, rfl⟩
    · by_cases awake : ∀ now held, call ≠ .sweep now held
      · rw [recorder?_step_of_ne sound here awake fun same next => opens ⟨same, next⟩] at known
        exact absurd known absent
      · cases call with
        | sweep now held =>
            change (s.sweep now held).2.recorder? id = some r at known
            rw [recorder?_sweep_unknown unknown] at known
            cases known
        | _ => exact absurd nofun awake

end

end Service
end SpanCapture
