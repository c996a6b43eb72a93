import SpanCapture.Proofs.Recorder.EndpointMark

/-! The frame an endpoint names, over whole runs. It carries the mark, wherever it is in the tree.
But the endpoint is kept beside the tree: when its frame is discarded, the endpoint goes on naming
it. -/
namespace SpanCapture
namespace Recorder

/-- What instrumentation does leaves the endpoint mark alone. -/
def Call.SparesMark : Call → Prop
  | .enter op => op.isEndpointSource = false ∧ op.Spares Operation.endpointKey
  | .change f => ∀ op, (f op).isEndpointSource = op.isEndpointSource ∧
      (op.Spares Operation.endpointKey → (f op).Spares Operation.endpointKey)
  | .act action => action.spares Operation.endpointKey
  | _ => True

def MarkSpared (m : Moment Session Call (Outcome Answer)) : Prop :=
  m.answer.isDone ∧ m.call.SparesMark

def discarded? (m : Moment Session Call (Outcome Answer)) : Option Nat :=
  match m.call, m.answer with
  | .discard target, .done (.flag true) => some target
  | _, _ => none

/-- A call discarded a frame, or one above it. -/
def discardsFrame (id : Nat) (m : Moment Session Call (Outcome Answer)) : Bool :=
  (discarded? m).any fun target => m.before.recorder.TakesOut target id

/-- A frame was discarded in the course of a trace, or one above it. -/
def Taken (course : List (Moment Session Call (Outcome Answer))) (id : Nat) : Prop :=
  ∃ m ∈ course, discardsFrame id m

/-- The trace in progress has an endpoint, and its frame is there unless it was discarded. -/
structure Tracked (register : AnalyzerRegister)
    (course : List (Moment Session Call (Outcome Answer))) (s : Session) : Prop where
  chosen : Chosen register course s
  timely : Timely s.clock.now s.recorder
  named : s.recorder.isBuilding → ∃ found, Named (Taken course) found s.recorder

section
variable {register : AnalyzerRegister} {course : List (Moment Session Call (Outcome Answer))}
  {s : Session} {call : Call} {op : Operation}

theorem not_discardsFrame {m : Moment Session Call (Outcome Answer)}
    (others : ∀ target, m.call ≠ .discard target) (id : Nat) : ¬ discardsFrame id m := by
  have none : discarded? m = none := by
    unfold discarded?
    split
    · rename_i target isDiscard done
      exact absurd isDiscard (others target)
    · rfl
  simp [discardsFrame, none]

theorem taken_append (m : Moment Session Call (Outcome Answer)) (id : Nat) :
    Taken (course ++ [m]) id ↔ Taken course id ∨ discardsFrame id m := by
  simp [Taken, or_and_right, exists_or]

theorem Tracked.enter (h : Tracked register course s)
    (honest : ∀ analyzer ∈ register, analyzer.Honest)
    (spared : MarkSpared (.at step s (.enter op))) :
    ∃ found, Named (Taken (proceed course (.at step s (.enter op)))) found
      (s.recorder.enter s.clock op).2 := by
  obtain ⟨answered, unmarked, spares⟩ := spared
  obtain ⟨number, done⟩ := enter_answered answered
  obtain ⟨-, candidate, enters⟩ := enter_enters (Prod.ext done rfl)
  have untaken (id : Nat) : ¬ discardsFrame id (.at step s (.enter op)) :=
    not_discardsFrame (fun _ same => by cases same) id
  have honest : ∀ analyzer ∈ s.recorder.ready.analyzers, analyzer.Honest := by
    rwa [analyzers_ready, h.chosen.analyzers]
  rw [proceed, opensRoot_enter done]
  cases building : s.recorder.ready.isBuilding with
  | false =>
      have idle : s.recorder.ready.openFrames = [] := by simpa [isBuilding] using building
      have free := h.chosen.coherent.ready.endpoint_of_idle building
      refine named_root enters honest idle free spares ?_
      rintro id ⟨m, member, gone⟩
      rw [List.mem_singleton.mp member] at gone
      exact untaken id gone
  | true =>
      have kept := ready_of_building building
      rw [kept] at building enters honest
      obtain ⟨found, named⟩ := h.named building
      have same : ∀ id, Taken (course ++ [.at step s (.enter op)]) id ↔ Taken course id := by
        intro id
        rw [taken_append, or_iff_left (untaken id)]
      obtain ⟨next, named⟩ := named.enters h.timely enters honest unmarked spares
      exact ⟨next, named.congr rfl rfl rfl same⟩

theorem Tracked.discard (h : Tracked register course s) (target : Nat)
    (building : (s.recorder.discard target).2.isBuilding) :
    ∃ found, Named (Taken (course ++ [.at step s (.discard target)])) found
      (s.recorder.discard target).2 := by
  rw [isBuilding_discard] at building
  obtain ⟨found, named⟩ := h.named building
  refine ⟨found, (named.discard h.timely target).congr rfl rfl rfl ?_⟩
  intro id
  rw [taken_append]
  refine or_congr_right ?_
  simp only [discardsFrame, discarded?, Moment.at, step]
  cases (s.recorder.discard target).1 with
  | false => simp
  | true =>
      simp only [true_and, Option.any_some]
      exact decide_eq_true_iff

/-- Calls that neither enter nor discard leave endpoint and frame together. -/
theorem Tracked.other (h : Tracked register course s) (spared : MarkSpared (.at step s call))
    (notEnter : ∀ op, call ≠ .enter op) (notDiscard : ∀ target, call ≠ .discard target)
    (building : (step s call).2.recorder.isBuilding) :
    ∃ found, Named (Taken course) found (step s call).2.recorder := by
  obtain ⟨answered, spared⟩ := spared
  obtain ⟨before, -⟩ := endpoint_step notEnter building
  obtain ⟨found, named⟩ := h.named before
  refine ⟨found, ?_⟩
  cases call with
  | enter op => exact absurd rfl (notEnter op)
  | discard target => exact absurd rfl (notDiscard target)
  | exit =>
      obtain ⟨left, done⟩ := exit_answered answered
      exact named.exit done building
  | dump => cases building
  | setHintAtRoot key value =>
      simp only [step, setHintAtRoot]
      split <;> exact named.congr rfl rfl rfl fun _ => Iff.rfl
  | change f => exact named.withOperation fun op spares => ⟨(spared op).1, (spared op).2 spares⟩
  | act action =>
      change Named _ _ (s.recorder.act s.clock action).2.1
      rw [act_eq_withOperation]
      refine named.withOperation fun op spares => ?_
      obtain ⟨same, spares⟩ := spares.act spared
      exact ⟨Operation.isEndpointSource_congr same, spares⟩
  | unwind maxAge now =>
      simp only [step] at building ⊢
      cases due : s.recorder.isDue maxAge now with
      | false =>
          rw [unwind_of_not_due due]
          exact named
      | true =>
          obtain ⟨trace, -, cleared⟩ := unwind_completes due (unwind_answered answered)
          rw [cleared] at building
          cases building
  | _ => exact named.congr rfl rfl rfl fun _ => Iff.rfl

theorem Tracked.step (h : Tracked register course s)
    (honest : ∀ analyzer ∈ register, analyzer.Honest) (spared : MarkSpared (.at step s call)) :
    Tracked register (proceed course (.at Recorder.step s call)) (Recorder.step s call).2 := by
  refine ⟨h.chosen.step spared.1, (h.timely.step call).2, ?_⟩
  intro building
  by_cases entering : ∃ op, call = .enter op
  · obtain ⟨op, rfl⟩ := entering
    exact h.enter honest spared
  · have notEnter : ∀ op, call ≠ .enter op := fun op same => entering ⟨op, same⟩
    rw [proceed_of_not_enter notEnter]
    by_cases discarding : ∃ target, call = .discard target
    · obtain ⟨target, rfl⟩ := discarding
      exact h.discard target building
    · have notDiscard : ∀ target, call ≠ .discard target :=
        fun target same => discarding ⟨target, same⟩
      obtain ⟨found, named⟩ := h.other spared notEnter notDiscard building
      refine ⟨found, named.congr rfl rfl rfl fun id => ?_⟩
      rw [taken_append, or_iff_left (not_discardsFrame notDiscard id)]

theorem Tracked.completed {trace : CompletedTrace} (h : Tracked register course s)
    (completed : Answer.completed? (Recorder.step s call).1 = some trace) :
    ∃ found, Names (Taken course) trace found := by
  obtain ⟨building, -⟩ := endpoint_completed completed
  obtain ⟨found, named⟩ := h.named building
  refine ⟨found, ?_⟩
  rcases completed_cases completed with ⟨-, info, exited⟩ | ⟨maxAge, now, -, unwound⟩
  · exact named.completed exited
  · exact named.markOverdue.exitMany (unwind_completed unwound).2

/-- As long as nothing crashes, analyzers report the frame they were asked about and nobody else
touches the endpoint mark, every completed trace has an endpoint. The mark is on the frame that the
endpoint names and on no other, and this frame is in the tree if and only if it was not discarded,
nor one above it. -/
theorem endpoint_frame_unless_discarded {first : Session}
    {history : List (Moment Session Call (Outcome Answer))} {trace : CompletedTrace}
    (fresh : first.recorder.reset = first.recorder)
    (honest : ∀ analyzer ∈ first.recorder.analyzers, analyzer.Honest)
    (run : Run step MarkSpared first history s)
    (completed : Answer.completed? (step s call).1 = some trace) :
    ∃ found, trace.endpoint = some found ∧
      (∀ e ∈ trace.root.entries, e.op.isEndpointSource ↔ e.id = found.frame) ∧
      ((∃ e ∈ trace.root.entries, e.id = found.frame) ↔
        ∀ m ∈ Recorder.course history, ¬ discardsFrame found.frame m) := by
  have idle : first.recorder.openFrames = [] := by
    rw [← fresh]
    rfl
  have start : Tracked first.recorder.analyzers [] first :=
    ⟨.start fresh, .idle idle, fun building => by simp [isBuilding, idle] at building⟩
  have tracked : Tracked first.recorder.analyzers (Recorder.course history) s :=
    run.book_invariant proceed [] start fun _ _ _ h spared => h.step honest spared
  obtain ⟨found, endpoint, marked, present⟩ := tracked.completed completed
  refine ⟨found, endpoint, marked, present.trans ?_⟩
  simp [Taken]

def Session.servlets : Session := Session.analyzed [.typed ["servlet"] 10]

/-- A servlet and a query below the root; the query is discarded. -/
def queryDiscarded : List Call :=
  [.enter { kind := "http", label := "root" }, .enter { kind := "servlet", label := "page" }, .exit,
    .enter { kind := "db", label := "query" }, .exit, .discard 3]

theorem endpoint_frame_beside_discarded :
    (∀ analyzer ∈ Session.servlets.recorder.analyzers, analyzer.Honest) ∧
      (∀ m ∈ moments step Session.servlets queryDiscarded, MarkSpared m) ∧
      ∃ trace, Answer.completed? (step (after step Session.servlets queryDiscarded) .exit).1 =
          some trace ∧
        ∃ e ∈ trace.root.entries, e.id = 2 ∧ e.op.isEndpointSource := by
  have honest : ∀ analyzer ∈ Session.servlets.recorder.analyzers, analyzer.Honest := by
    intro analyzer member
    rw [List.mem_singleton.mp member]
    exact Analyzer.honest_typed _ _ _
  have answered : ∀ m ∈ moments step Session.servlets queryDiscarded, Answered m := by
    decide +kernel
  have spared : ∀ call ∈ queryDiscarded, call.SparesMark := by
    simp only [queryDiscarded, List.forall_mem_cons]
    exact ⟨⟨rfl, nofun⟩, ⟨rfl, nofun⟩, trivial, ⟨rfl, nofun⟩, trivial, trivial, nofun⟩
  have ok : ∀ m ∈ moments step Session.servlets queryDiscarded, MarkSpared m :=
    fun m member => ⟨answered m member, spared m.call (call_mem_of_mem_moments member)⟩
  have shown : (Answer.completed? (step (after step Session.servlets queryDiscarded)
      .exit).1).map (fun trace => trace.endpoint.map Endpoint.frame) = some (some 2) := by
    decide +kernel
  obtain ⟨trace, completed, named⟩ := Option.map_eq_some_iff.mp shown
  obtain ⟨found, endpoint, marked, present⟩ :=
    endpoint_frame_unless_discarded rfl honest (Run.of_moments ok) completed
  rw [endpoint] at named
  have second : found.frame = 2 := Option.some.inj named
  rw [second] at marked present
  obtain ⟨e, member, here⟩ := present.mpr (by decide +kernel)
  exact ⟨honest, ok, trace, completed, e, member, here, (marked e member).mpr here⟩

/-- A servlet below the root is discarded after it was left. -/
def servletDiscarded : List Call :=
  [.enter { kind := "http", label := "root" }, .enter { kind := "servlet", label := "page" }, .exit,
    .discard 2]

/-- The endpoint still names the second frame, while only the root is left, without a mark. -/
theorem endpoint_of_discarded_frame :
    (Answer.completed? (step (after step Session.servlets servletDiscarded) .exit).1).map
        (fun trace => (trace.endpoint.map Endpoint.frame,
          trace.root.entries.map fun e => (e.id, e.op.isEndpointSource))) =
      some (some 2, [(1, false)]) := by
  decide +kernel

end

end Recorder
end SpanCapture
