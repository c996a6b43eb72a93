import SpanCapture.Proofs.Recorder.Course

/-! What a completed trace carries is its own: its endpoint was proposed for one of its frames, and
its hints were written for it. This holds through crashing analyzers and scripts as long as no
crash takes the root off the stack. Where that happens, endpoint and hints stay behind and go into
the next trace. -/
namespace SpanCapture
namespace Recorder

/-- An endpoint is what an analyzer of a register, or the fallback, answered for the frame a call
entered. -/
def proposes (register : AnalyzerRegister) (m : Moment Session Call (Outcome Answer))
    (found : Endpoint) : Prop :=
  match m.call, m.answer with
  | .enter op, .done (.entered number) => ∃ analyzer ∈ Analyzer.fallback :: register,
      ∃ depth, analyzer.locate op number depth = .done (some found)
  | _, _ => False

/-- The hints a call writes. An entering leaves one when the trace becomes too large. -/
def writes (m : Moment Session Call (Outcome Answer)) : List (String × Hint) :=
  match m.call with
  | .enter _ =>
    if !m.before.recorder.ready.isAborted && m.after.recorder.isAborted then
      [(HintName.aborted, .value (.bool true))]
    else []
  | .discard id =>
    if m.before.recorder.root?.map Frame.id = some id then
      [(HintName.discard, .value (.bool true))]
    else []
  | .setHint key value => [(key, .value value)]
  | .setHintObject key object => [(key, .textObject object)]
  | .setHintAtRoot key value => if m.before.recorder.atRoot then [(key, .value value)] else []
  | .unwind maxAge now =>
    if m.before.recorder.isDue maxAge now then
      [(HintName.overdue, .value (.bool true)), (HintName.discard, .value (.bool true))]
    else []
  | _ => []

/-- One call more in the record of hints. When a root is gone the record starts anew. When a trace
is dropped as too large, what is preserved is carried over. -/
def recordHints (record : List (String × Hint)) (m : Moment Session Call (Outcome Answer)) :
    List (String × Hint) :=
  match m.call with
  | .enter _ =>
    (if m.before.recorder.isAborted then
      record.filter fun written => m.before.recorder.limits.preserved.contains written.1
    else record) ++ writes m
  | _ =>
    if m.before.recorder.isBuilding && !m.after.recorder.isBuilding then [] else record ++ writes m

/-- The hints written since a root was last closed or dropped. -/
def hintRecord (history : List (Moment Session Call (Outcome Answer))) : List (String × Hint) :=
  history.foldl recordHints []

def Call.leaves : Call → Bool
  | .exit | .unwind _ _ => true
  | _ => false

/-- No crash took the root off the stack. -/
def RootKept (m : Moment Session Call (Outcome Answer)) : Prop :=
  m.call.leaves → m.answer.isDone ∨ m.after.recorder.isBuilding

instance : DecidablePred RootKept := fun _ => inferInstanceAs (Decidable (_ = true → _ ∨ _))

/-- A trace that a call completes after a history carries its own data only. -/
structure OwnData (register : AnalyzerRegister)
    (history : List (Moment Session Call (Outcome Answer)))
    (last : Moment Session Call (Outcome Answer)) (trace : CompletedTrace) : Prop where
  endpoint : ∃ found, trace.endpoint = some found ∧ ∃ m ∈ course history, proposes register m found
  hints : ∀ written ∈ trace.hints, written ∈ hintRecord history ++ writes last

section
variable {clock : Clock} {r : Recorder} {s : Session} {call : Call} {op : Operation}
  {trace : CompletedTrace} {written : String × Hint}

/-- Whatever an exit does to a recorder, the hints it leaves were there. -/
theorem hints_exit (member : written ∈ (r.exit clock).2.1.hints) : written ∈ r.hints := by
  have left := exits clock r
  generalize r.exit clock = exited at left member
  cases left with
  | root => cases member
  | _ => exact member

theorem hints_exitMany {n : Nat} (member : written ∈ (exitMany n clock r).2.1.hints) :
    written ∈ r.hints :=
  (exitMany_keeps (P := fun _ later => ∀ written ∈ later.hints, written ∈ r.hints)
    (Q := fun _ => True) (fun _ _ kept _ inside => kept _ (hints_exit inside))
    (fun _ _ _ _ _ _ => trivial) n clock r fun _ inside => inside).1 written member

theorem mem_hints_markOverdue (member : written ∈ r.markOverdue.hints) :
    written ∈ r.hints ∨ written ∈ [(HintName.overdue, Hint.value (.bool true)),
      (HintName.discard, .value (.bool true))] := by
  rcases Keyed.mem_of_mem_insert member with rfl | member
  · exact .inr (List.mem_cons_of_mem _ List.mem_cons_self)
  · rcases Keyed.mem_of_mem_insert member with rfl | before
    · exact .inr List.mem_cons_self
    · exact .inl before

/-- The hints after a call were there before, or the call wrote them. -/
theorem hints_step (others : ∀ op, call ≠ .enter op)
    (member : written ∈ (step s call).2.recorder.hints) :
    written ∈ s.recorder.hints ∨ written ∈ writes (.at step s call) := by
  cases call with
  | enter op => exact absurd rfl (others op)
  | exit => exact .inl (hints_exit member)
  | discard id =>
      have discarded := discards id s.recorder
      simp only [step] at member
      generalize s.recorder.discard id = result at discarded member
      cases discarded with
      | refused => exact .inl member
      | closed => exact .inl member
      | root isRoot here =>
          rcases Keyed.mem_of_mem_insert member with rfl | before
          · right
            simp [writes, Moment.at, isRoot, here]
          · exact .inl before
  | dump => cases member
  | setHint key value => exact (Keyed.mem_of_mem_insert member).symm.imp id List.mem_singleton.mpr
  | setHintObject key object =>
      exact (Keyed.mem_of_mem_insert member).symm.imp id List.mem_singleton.mpr
  | setHintAtRoot key value =>
      simp only [step, setHintAtRoot] at member
      split at member
      · rename_i atRoot
        rcases Keyed.mem_of_mem_insert member with rfl | before
        · right
          simp [writes, Moment.at, atRoot]
        · exact .inl before
      · exact .inl member
  | change f =>
      have changed := changes f s.recorder
      simp only [step] at member
      generalize s.recorder.withOperation f = r at changed member
      cases changed <;> exact .inl member
  | act action =>
      simp only [step, act] at member
      split at member <;> exact .inl member
  | unwind maxAge now =>
      simp only [step] at member
      cases due : s.recorder.isDue maxAge now with
      | false =>
          rw [unwind_of_not_due due] at member
          exact .inl member
      | true =>
          rw [unwind_of_due due] at member
          refine (mem_hints_markOverdue (hints_exitMany member)).imp id fun overdue => ?_
          simpa [writes, Moment.at, due] using overdue
  | wait nanos => exact .inl member

theorem hints_enter (member : written ∈ (s.recorder.enter s.clock op).2.hints) :
    written ∈ s.recorder.ready.hints ∨ written ∈ writes (.at step s (.enter op)) := by
  cases answered : (s.recorder.enter s.clock op).1 with
  | crashed message =>
      rw [enter_crashed answered] at member
      exact .inl member
  | done number =>
      obtain ⟨-, candidate, enters⟩ := enter_enters (Prod.ext answered rfl)
      rcases enters.hints with same | grown
      · rw [same] at member
        exact .inl member
      · rw [grown] at member
        rcases Keyed.mem_of_mem_insert member with rfl | before
        · have tooLarge : (s.recorder.enter s.clock op).2.isAborted := by
            rw [isAborted, grown, Hints.flag_set_self]
          cases already : s.recorder.ready.isAborted with
          | true => exact .inl (Hints.mem_of_flag already)
          | false =>
              right
              simp [writes, Moment.at, step, already, tooLarge]
        · exact .inl before

/-- Of the hints before an entering, preserved ones only are left if the trace was dropped. -/
theorem mem_hints_ready (member : written ∈ r.ready.hints) : written ∈ r.hints ∧
    (r.isAborted → r.limits.preserved.contains written.1) := by
  unfold ready at member
  split at member
  · obtain ⟨before, preserved⟩ := List.mem_filter.mp member
    exact ⟨before, fun _ => preserved⟩
  · rename_i sound
    exact ⟨member, fun aborted => absurd aborted sound⟩

/-- When the root goes it takes all that was gathered along, unless a crash took it. -/
theorem gathered_released (others : ∀ op, call ≠ .enter op) (kept : RootKept (.at step s call))
    (idle : (step s call).2.recorder.isBuilding = false) :
    (step s call).2.recorder.gathered = (none, []) ∨
      (s.recorder.isBuilding = false ∧
        (step s call).2.recorder.endpoint = s.recorder.endpoint) := by
  cases call with
  | enter op => exact absurd rfl (others op)
  | exit =>
      have kept : (s.recorder.exit s.clock).2.2.isDone ∨
          (s.recorder.exit s.clock).2.1.isBuilding := by
        rw [← Outcome.isDone_map Answer.exited]
        exact kept rfl
      have left := exits s.clock s.recorder
      simp only [step] at idle ⊢
      generalize s.recorder.exit s.clock = exited at left kept idle ⊢
      cases left with
      | idle frames => exact .inr ⟨idle, rfl⟩
      | root => exact .inl rfl
      | inner => cases idle
      | crash =>
          rcases kept with calm | building
          · cases calm
          · rw [building] at idle
            cases idle
  | discard id =>
      refine .inr ⟨?_, endpoint_discard id s.recorder⟩
      rw [← isBuilding_discard id]
      exact idle
  | dump => exact .inl rfl
  | setHintAtRoot key value =>
      simp only [step, setHintAtRoot] at idle ⊢
      split at idle
      · rename_i atRoot
        rw [if_pos atRoot]
        exact .inr ⟨idle, rfl⟩
      · rename_i below
        rw [if_neg below]
        exact .inr ⟨idle, rfl⟩
  | change f =>
      refine .inr ⟨?_, endpoint_withOperation f s.recorder⟩
      rw [← isBuilding_withOperation f]
      exact idle
  | act action =>
      change (s.recorder.act s.clock action).2.1.isBuilding = false at idle
      change _ ∨ (_ ∧ (s.recorder.act s.clock action).2.1.endpoint = _)
      rw [act_eq_withOperation] at idle ⊢
      rw [isBuilding_withOperation] at idle
      exact .inr ⟨idle, endpoint_withOperation _ s.recorder⟩
  | unwind maxAge now =>
      have kept : (s.recorder.unwind maxAge now s.clock).2.2.isDone ∨
          (s.recorder.unwind maxAge now s.clock).2.1.isBuilding := by
        rw [← Outcome.isDone_map Answer.unwound]
        exact kept rfl
      simp only [step] at idle ⊢
      cases due : s.recorder.isDue maxAge now with
      | false =>
          rw [unwind_of_not_due due] at idle ⊢
          exact .inr ⟨idle, rfl⟩
      | true =>
          rcases kept with calm | building
          · obtain ⟨trace, -, cleared⟩ := unwind_completes due calm
            rw [cleared]
            exact .inl rfl
          · rw [building] at idle
            cases idle
  | _ => exact .inr ⟨idle, rfl⟩

/-- A completed trace has the hints there were, and those the completing call wrote. -/
theorem hints_completed (completed : Answer.completed? (step s call).1 = some trace)
    (member : written ∈ trace.hints) :
    written ∈ s.recorder.hints ∨ written ∈ writes (.at step s call) := by
  rcases completed_cases completed with ⟨rfl, info, exited⟩ | ⟨maxAge, now, rfl, unwound⟩
  · obtain ⟨-, same⟩ := gathered_exited exited
    rw [show trace.hints = s.recorder.hints from congrArg Prod.snd same] at member
    exact .inl member
  · obtain ⟨due, unwound⟩ := unwind_completed unwound
    obtain ⟨-, same⟩ := (gathered_exitMany _ _ _).2 _ unwound
    rw [show trace.hints = s.recorder.markOverdue.hints from congrArg Prod.snd same] at member
    refine (mem_hints_markOverdue member).imp id fun overdue => ?_
    simpa [writes, Moment.at, due] using overdue

variable {register : AnalyzerRegister} {course : List (Moment Session Call (Outcome Answer))}
  {record : List (String × Hint)}

theorem recordHints_of_not_enter {m : Moment Session Call (Outcome Answer)}
    (others : ∀ op, m.call ≠ .enter op) :
    recordHints record m =
      if m.before.recorder.isBuilding && !m.after.recorder.isBuilding then []
      else record ++ writes m := by
  unfold recordHints
  split
  · rename_i op isEnter
    exact absurd isEnter (others op)
  · rfl

/-- The hints of a recorder are on record after a call as well, unless a crash takes the root. -/
theorem hints_recorded (h : ∀ written ∈ s.recorder.hints, written ∈ record)
    (kept : RootKept (.at step s call)) :
    ∀ written ∈ (step s call).2.recorder.hints,
      written ∈ recordHints record (.at step s call) := by
  intro written member
  by_cases entering : ∃ op, call = .enter op
  · obtain ⟨op, rfl⟩ := entering
    refine List.mem_append.mpr ((hints_enter member).imp_left fun ready => ?_)
    obtain ⟨before, preserved⟩ := mem_hints_ready ready
    split
    · rename_i aborted
      exact List.mem_filter.mpr ⟨h written before, preserved aborted⟩
    · exact h written before
  · have others : ∀ op, call ≠ .enter op := fun op same => entering ⟨op, same⟩
    rw [recordHints_of_not_enter others]
    split
    · rename_i popped
      obtain ⟨building, idle⟩ : s.recorder.isBuilding = true ∧
          (step s call).2.recorder.isBuilding = false := by
        simpa [Moment.at] using popped
      rcases gathered_released others kept idle with nothing | ⟨before, -⟩
      · rw [show (step s call).2.recorder.hints = [] from congrArg Prod.snd nothing] at member
        cases member
      · rw [building] at before
        cases before
    · exact List.mem_append.mpr ((hints_step others member).imp_left (h written))

/-- A trace in progress has an endpoint that was proposed in its course. -/
structure OwnEndpoint (register : AnalyzerRegister)
    (course : List (Moment Session Call (Outcome Answer))) (r : Recorder) : Prop where
  analyzers : r.analyzers = register
  free : r.isBuilding = false → r.endpoint = none
  proposed : r.isBuilding →
    ∃ found, r.endpoint = some found ∧ ∃ m ∈ course, proposes register m found

theorem OwnEndpoint.ready (h : OwnEndpoint register course r) :
    OwnEndpoint register course r.ready := by
  unfold Recorder.ready
  split
  · exact ⟨h.analyzers, fun _ => rfl, fun building => by cases building⟩
  · exact h

/-- A trace that goes on after a call keeps its endpoint. -/
theorem OwnEndpoint.goesOn {r' : Recorder} (h : OwnEndpoint register course r)
    (analyzers : r'.analyzers = register) (free : r'.isBuilding = false → r'.endpoint = none)
    (kept : r'.isBuilding → r.isBuilding ∧ r'.endpoint = r.endpoint)
    (m : Moment Session Call (Outcome Answer)) : OwnEndpoint register (course ++ [m]) r' := by
  refine ⟨analyzers, free, ?_⟩
  intro building
  obtain ⟨before, same⟩ := kept building
  obtain ⟨found, endpoint, m', member, proposed⟩ := h.proposed before
  exact ⟨found, same.trans endpoint, m', List.mem_append_left _ member, proposed⟩

/-- A frame with a candidate that is taken up, or below one that had been. -/
theorem OwnEndpoint.enter {number : Nat} (h : OwnEndpoint register course s.recorder)
    (done : (s.recorder.enter s.clock op).1 = .done number) :
    ∃ found, (s.recorder.enter s.clock op).2.endpoint = some found ∧
      ∃ m ∈ proceed course (.at step s (.enter op)), proposes register m found := by
  obtain ⟨same, candidate, enters⟩ := enter_enters (Prod.ext done rfl)
  have offered (found : Endpoint) (isFound : candidate = some found) :
      proposes register (.at step s (.enter op)) found := by
    have best := AnalyzerRegister.locate_done enters.located
    rw [isFound] at best
    obtain ⟨analyzer, asked, located⟩ := AnalyzerRegister.located_of_mem_candidates
      (Endpoint.firstBest_of_bestOf best.symm).mem
    rw [h.ready.analyzers] at asked
    simp only [proposes, Moment.at, step, done, Outcome.map_done]
    exact ⟨analyzer, asked, _, same ▸ located⟩
  have here : Moment.at step s (.enter op) ∈ proceed course (.at step s (.enter op)) := by
    unfold proceed
    split <;> simp
  cases enters.marks with
  | moved isFound endpoint => exact ⟨_, endpoint, _, here, offered _ isFound⟩
  | kept kept =>
      cases building : s.recorder.ready.isBuilding with
      | false =>
          -- A root always has a candidate, and there is nothing it would have to beat.
          have idle : s.recorder.ready.openFrames = [] := by simpa [isBuilding] using building
          obtain ⟨found, isFound⟩ := Option.isSome_iff_exists.mp (enters.isSome_of_idle idle)
          have chosen := enters.endpoint
          rw [h.ready.free building, Endpoint.prefer_none_left] at chosen
          exact ⟨found, chosen.trans isFound, _, here, offered found isFound⟩
      | true =>
          obtain ⟨found, endpoint, m, member, proposed⟩ := h.ready.proposed building
          refine ⟨found, kept.trans endpoint, m, ?_, proposed⟩
          rw [proceed, opensRoot_enter done, building]
          exact List.mem_append_left _ member

theorem OwnEndpoint.step (h : OwnEndpoint register course s.recorder)
    (kept : RootKept (.at step s call)) :
    OwnEndpoint register (proceed course (.at Recorder.step s call))
      (Recorder.step s call).2.recorder := by
  have analyzers : (Recorder.step s call).2.recorder.analyzers = register := by
    rw [← h.analyzers]
    exact congrArg (·.2.1) (setup_step s call)
  by_cases entering : ∃ op, call = .enter op
  · obtain ⟨op, rfl⟩ := entering
    cases answered : (s.recorder.enter s.clock op).1 with
    | done number =>
        obtain ⟨-, candidate, enters⟩ := enter_enters (Prod.ext answered rfl)
        obtain ⟨e, outer, frames, -⟩ := enters.frames
        have building : (Recorder.step s (.enter op)).2.recorder.isBuilding :=
          isBuilding_of_cons frames
        refine ⟨analyzers, ?_, fun _ => h.enter answered⟩
        intro idle
        rw [building] at idle
        cases idle
    | crashed message =>
        have goesOn : proceed course (.at Recorder.step s (.enter op)) =
            course ++ [.at Recorder.step s (.enter op)] := by
          simp [proceed, opensRoot, Moment.at, Recorder.step, answered]
        have counted : (Recorder.step s (.enter op)).2.recorder =
            s.recorder.ready.countEntry s.clock := enter_crashed answered
        -- The frame is lost: what goes on is the trace there was, if it was not dropped.
        rw [goesOn]
        rw [counted] at analyzers ⊢
        exact h.ready.goesOn analyzers h.ready.free (fun building => ⟨building, rfl⟩) _
  · have others : ∀ op, call ≠ .enter op := fun op same => entering ⟨op, same⟩
    rw [proceed_of_not_enter others]
    refine h.goesOn analyzers ?_ (endpoint_step others) _
    intro idle
    rcases gathered_released others kept idle with nothing | ⟨before, same⟩
    · exact congrArg Prod.fst nothing
    · exact same.trans (h.free before)

/-- Whatever calls were made on a new recorder, with analyzers and scripts crashing, as long as no
crash took a root off the stack: every completed trace carries its own data only. -/
theorem completed_carries_own_data {limits : Limits} {analyzers : AnalyzerRegister}
    {identity : Identity} {history : List (Moment Session Call (Outcome Answer))}
    (run : Run step RootKept ⟨clock, { limits, analyzers, identity }⟩ history s)
    (completed : Answer.completed? (step s call).1 = some trace) :
    OwnData analyzers history (.at step s call) trace := by
  have own : OwnEndpoint analyzers (Recorder.course history) s.recorder := by
    refine run.book_invariant (R := fun course s => OwnEndpoint analyzers course s.recorder)
      proceed [] ⟨rfl, fun _ => rfl, fun building => by cases building⟩ ?_
    exact fun _ _ _ h kept => h.step kept
  have recorded : ∀ written ∈ s.recorder.hints, written ∈ hintRecord history := by
    refine run.book_invariant
      (R := fun record s => ∀ written ∈ s.recorder.hints, written ∈ record)
      recordHints [] (fun _ none => by cases none) ?_
    exact fun _ _ _ h kept => hints_recorded h kept
  obtain ⟨building, same⟩ := endpoint_completed completed
  obtain ⟨found, endpoint, proposed⟩ := own.proposed building
  refine ⟨⟨found, same.trans endpoint, proposed⟩, ?_⟩
  intro written member
  exact List.mem_append.mpr ((hints_completed completed member).imp_left (recorded written))

/-- A trace with a hint, and one in which a script crashes below the root. -/
def crashBelowRoot : List Call :=
  [.enter { kind := "http", label := "first" }, .setHint "note" (.bool true), .exit,
    .enter { kind := "http", label := "second" },
    .enter { kind := "db", label := "inner", pending := [[.crash "boom"]] }, .exit,
    .setHint "mark" (.bool true)]

theorem second_trace_own_data :
    (∀ m ∈ moments step (Session.plain 10) crashBelowRoot, RootKept m) ∧
      ∃ trace, Answer.completed? (step (after step (Session.plain 10)
          crashBelowRoot) .exit).1 = some trace ∧
        trace.hints.keys = ["mark"] ∧ trace.endpoint.map Endpoint.name = some "second" ∧
        OwnData [] (moments step (Session.plain 10) crashBelowRoot)
          (.at step (after step (Session.plain 10) crashBelowRoot) .exit) trace := by
  have ok : ∀ m ∈ moments step (Session.plain 10) crashBelowRoot, RootKept m := by
    decide +kernel
  have shown : (Answer.completed? (step (after step (Session.plain 10)
      crashBelowRoot) .exit).1).map (fun trace =>
        (trace.hints.keys, trace.endpoint.map Endpoint.name)) =
      some (["mark"], some "second") := by decide +kernel
  obtain ⟨trace, completed, same⟩ := Option.map_eq_some_iff.mp shown
  obtain ⟨hints, endpoint⟩ := Prod.mk.inj same
  exact ⟨ok, trace, completed, hints, endpoint,
    completed_carries_own_data (Run.of_moments ok) completed⟩

/-- A script crashes while the root is left, and a new root is entered. -/
def crashAtRoot : List Call :=
  [.enter { kind := "http", label := "first", pending := [[.crash "boom"]] },
    .setHint "note" (.bool true), .exit, .enter { kind := "http", label := "second" }]

/-- The second trace is named for the lost root of the first, and has its hint. -/
theorem crash_at_root_leaks :
    ∃ trace, Answer.completed? (step (after step (Session.plain 10)
        crashAtRoot) .exit).1 = some trace ∧
      trace.root.entries.map (fun e => e.op.label) = ["second"] ∧
      trace.endpoint.map Endpoint.name = some "first" ∧ trace.hints.keys = ["note"] ∧
      ¬ OwnData [] (moments step (Session.plain 10) crashAtRoot)
        (.at step (after step (Session.plain 10) crashAtRoot) .exit) trace := by
  have shown : (Answer.completed? (step (after step (Session.plain 10)
      crashAtRoot) .exit).1).map (fun trace => (trace.root.entries.map (fun e => e.op.label),
        trace.endpoint.map Endpoint.name, trace.hints.keys)) =
      some (["second"], some "first", ["note"]) := by decide +kernel
  obtain ⟨trace, completed, same⟩ := Option.map_eq_some_iff.mp shown
  simp only [Prod.mk.injEq] at same
  obtain ⟨labels, endpoint, hints⟩ := same
  refine ⟨trace, completed, labels, endpoint, hints, ?_⟩
  intro own
  have nothing : hintRecord (moments step (Session.plain 10) crashAtRoot) ++
      writes (.at step (after step (Session.plain 10) crashAtRoot) .exit) = [] :=
    List.isEmpty_iff.mp (by decide +kernel)
  obtain ⟨first, rest, some⟩ : ∃ first rest, trace.hints = first :: rest :=
    List.exists_cons_of_ne_nil fun none => by simp [none, Keyed.keys] at hints
  have written := own.hints first (some ▸ List.mem_cons_self)
  rw [nothing] at written
  cases written

end

end Recorder
end SpanCapture
