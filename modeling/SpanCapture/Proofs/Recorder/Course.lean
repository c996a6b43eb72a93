import SpanCapture.Proofs.Recorder.Counters
import SpanCapture.Proofs.Recorder.Failures

/-! The course of a trace: the calls since its root was entered. Every frame entered on the way
brings its candidates for the endpoint, and no other call touches the endpoint kept beside the
open frames. So the endpoint of a completed trace is the first best of all candidates. -/
namespace SpanCapture
namespace Recorder

/-- A root was entered: nothing was open, or what was open has been dropped as too large. -/
def opensRoot (m : Moment Session Call (Outcome Answer)) : Bool :=
  match m.call, m.answer with
  | .enter _, .done _ => !m.before.recorder.ready.isBuilding
  | _, _ => false

def proceed (course : List (Moment Session Call (Outcome Answer)))
    (m : Moment Session Call (Outcome Answer)) : List (Moment Session Call (Outcome Answer)) :=
  if opensRoot m then [m] else course ++ [m]

/-- The calls since the last root was entered, that of the root first. -/
def course (history : List (Moment Session Call (Outcome Answer))) :
    List (Moment Session Call (Outcome Answer)) :=
  history.foldl proceed []

theorem opensRoot_of_not_enter {m : Moment Session Call (Outcome Answer)}
    (others : ∀ op, m.call ≠ .enter op) : opensRoot m = false := by
  unfold opensRoot
  split
  · rename_i op answer isEnter done
    exact absurd isEnter (others op)
  · rfl

theorem proceed_of_not_enter {course : List (Moment Session Call (Outcome Answer))}
    {m : Moment Session Call (Outcome Answer)} (others : ∀ op, m.call ≠ .enter op) :
    proceed course m = course ++ [m] := by
  rw [proceed, opensRoot_of_not_enter others]
  rfl

theorem mem_foldl_proceed {history before : List (Moment Session Call (Outcome Answer))}
    {m : Moment Session Call (Outcome Answer)} (member : m ∈ history.foldl proceed before) :
    m ∈ before ∨ m ∈ history := by
  induction history generalizing before with
  | nil => exact .inl member
  | cons first rest ih =>
      rcases ih member with here | later
      · unfold proceed at here
        split at here
        · exact .inr (List.mem_singleton.mp here ▸ List.mem_cons_self)
        · rcases List.mem_append.mp here with earlier | last
          · exact .inl earlier
          · exact .inr (List.mem_singleton.mp last ▸ List.mem_cons_self)
      · exact .inr (List.mem_cons_of_mem _ later)

/-- The course of a trace is part of the history. -/
theorem mem_of_mem_course {history : List (Moment Session Call (Outcome Answer))}
    {m : Moment Session Call (Outcome Answer)} (member : m ∈ course history) : m ∈ history :=
  (mem_foldl_proceed member).resolve_left List.not_mem_nil

theorem opensRoot_enter {s : Session} {op : Operation} {number : Nat}
    (done : (s.recorder.enter s.clock op).1 = .done number) :
    opensRoot (.at step s (.enter op)) = !s.recorder.ready.isBuilding := by
  simp only [opensRoot, Moment.at, step, done, Outcome.map_done]

/-- What a register proposes for the frame a call entered, if it entered one. The depth counts the
open frames, this one included. -/
def candidates (register : AnalyzerRegister) (m : Moment Session Call (Outcome Answer)) :
    List Endpoint :=
  match m.call, m.answer with
  | .enter op, .done (.entered number) =>
    let above := m.before.recorder.ready.openKinds
    register.candidates op number (above.length + 1) above
  | _, _ => []

def gathered (r : Recorder) : Option Endpoint × Hints := (r.endpoint, r.hints)

section
variable {clock : Clock} {r : Recorder} {s : Session} {call : Call} {trace : CompletedTrace}

theorem isBuilding_of_cons {frame : Frame} {outer : List Frame}
    (frames : r.openFrames = frame :: outer) : r.isBuilding := by
  rw [isBuilding, frames]
  rfl

theorem gathered_exit (building : (r.exit clock).2.1.isBuilding) :
    r.isBuilding ∧ (r.exit clock).2.1.gathered = r.gathered := by
  have left := exits clock r
  generalize r.exit clock = exited at left building ⊢
  cases left with
  | idle => exact ⟨building, rfl⟩
  | crash frames => exact ⟨isBuilding_of_cons frames, rfl⟩
  | root => cases building
  | inner frames => exact ⟨isBuilding_of_cons frames, rfl⟩

theorem gathered_exited {info : FrameEntry}
    (completed : (r.exit clock).2.2 = .done (some ⟨info, some trace⟩)) :
    r.isBuilding ∧ (trace.endpoint, trace.hints) = r.gathered := by
  have left := exits clock r
  generalize r.exit clock = exited at left completed
  cases left with
  | root frames =>
      cases completed
      exact ⟨isBuilding_of_cons frames, rfl⟩
  | _ => cases completed

/-- Whether a trace is completed by a row of exits or goes on after it, what is gathered stays. -/
theorem gathered_exitMany (n : Nat) (clock : Clock) (r : Recorder) :
    ((exitMany n clock r).2.1.isBuilding →
        r.isBuilding ∧ (exitMany n clock r).2.1.gathered = r.gathered) ∧
      ∀ trace, (exitMany n clock r).2.2 = .done (some trace) →
        r.isBuilding ∧ (trace.endpoint, trace.hints) = r.gathered := by
  have kept (clock : Clock) (later : Recorder)
      (h : later.isBuilding → r.isBuilding ∧ later.gathered = r.gathered)
      (building : (later.exit clock).2.1.isBuilding) :
      r.isBuilding ∧ (later.exit clock).2.1.gathered = r.gathered := by
    obtain ⟨before, same⟩ := gathered_exit building
    exact ⟨(h before).1, same.trans (h before).2⟩
  refine exitMany_keeps (P := fun _ later =>
    later.isBuilding → r.isBuilding ∧ later.gathered = r.gathered) kept ?_ n clock r
    fun building => ⟨building, rfl⟩
  intro clock later info trace h completed
  obtain ⟨before, same⟩ := gathered_exited completed
  exact ⟨(h before).1, same.trans (h before).2⟩

theorem isBuilding_withOperation (f : Operation → Operation) (r : Recorder) :
    (r.withOperation f).isBuilding = r.isBuilding := by
  have changed := changes f r
  generalize r.withOperation f = r' at changed
  cases changed with
  | idle => rfl
  | top frames => exact (isBuilding_of_cons frames).symm

theorem isBuilding_markOverdue (r : Recorder) : r.markOverdue.isBuilding = r.isBuilding := by
  rw [isBuilding, openFrames_markOverdue]
  exact isBuilding_withOperation _ r

theorem isBuilding_discard (id : Nat) (r : Recorder) :
    (r.discard id).2.isBuilding = r.isBuilding := by
  rw [isBuilding_eq, isBuilding_eq, openings_discard]

theorem endpoint_withOperation (f : Operation → Operation) (r : Recorder) :
    (r.withOperation f).endpoint = r.endpoint := by
  unfold withOperation
  split <;> rfl

theorem endpoint_discard (id : Nat) (r : Recorder) : (r.discard id).2.endpoint = r.endpoint := by
  have discarded := discards id r
  generalize r.discard id = result at discarded
  cases discarded <;> rfl

/-- But for enterings, no call on a trace that goes on touches its endpoint. -/
theorem endpoint_step (others : ∀ op, call ≠ .enter op)
    (building : (step s call).2.recorder.isBuilding) :
    s.recorder.isBuilding ∧ (step s call).2.recorder.endpoint = s.recorder.endpoint := by
  cases call with
  | enter op => exact absurd rfl (others op)
  | exit =>
      obtain ⟨before, same⟩ := gathered_exit building
      exact ⟨before, congrArg Prod.fst same⟩
  | discard id =>
      change (s.recorder.discard id).2.isBuilding = true at building
      rw [isBuilding_discard] at building
      exact ⟨building, endpoint_discard id s.recorder⟩
  | dump => cases building
  | setHintAtRoot key value =>
      simp only [step, setHintAtRoot] at building ⊢
      split at building
      · rename_i atRoot
        rw [if_pos atRoot]
        exact ⟨building, rfl⟩
      · rename_i below
        rw [if_neg below]
        exact ⟨building, rfl⟩
  | change f =>
      change (s.recorder.withOperation f).isBuilding = true at building
      rw [isBuilding_withOperation] at building
      exact ⟨building, endpoint_withOperation f s.recorder⟩
  | act action =>
      change (s.recorder.act s.clock action).2.1.isBuilding = true at building
      change _ ∧ (s.recorder.act s.clock action).2.1.endpoint = _
      rw [act_eq_withOperation] at building ⊢
      rw [isBuilding_withOperation] at building
      exact ⟨building, endpoint_withOperation _ s.recorder⟩
  | unwind maxAge now =>
      simp only [step] at building ⊢
      cases due : s.recorder.isDue maxAge now with
      | false =>
          rw [unwind_of_not_due due] at building ⊢
          exact ⟨building, rfl⟩
      | true =>
          rw [unwind_of_due due] at building ⊢
          obtain ⟨before, same⟩ := (gathered_exitMany _ s.clock s.recorder.markOverdue).1 building
          rw [isBuilding_markOverdue] at before
          exact ⟨before, congrArg Prod.fst same⟩
  | _ => exact ⟨building, rfl⟩

/-- A completed trace has the endpoint kept for the trace in progress. -/
theorem endpoint_completed (completed : Answer.completed? (step s call).1 = some trace) :
    s.recorder.isBuilding ∧ trace.endpoint = s.recorder.endpoint := by
  rcases completed_cases completed with ⟨-, info, exited⟩ | ⟨maxAge, now, -, unwound⟩
  · obtain ⟨building, same⟩ := gathered_exited exited
    exact ⟨building, congrArg Prod.fst same⟩
  · obtain ⟨building, same⟩ := (gathered_exitMany _ _ _).2 _ (unwind_completed unwound).2
    rw [isBuilding_markOverdue] at building
    exact ⟨building, congrArg Prod.fst same⟩

/-- Leaving the root completes its trace, unless a script crashes. -/
theorem exit_completes (atRoot : s.recorder.atRoot) (calm : (step s .exit).1.isDone) :
    ∃ trace, Answer.completed? (step s .exit).1 = some trace := by
  obtain ⟨left, done⟩ := exit_answered calm
  obtain ⟨info, trace, rfl⟩ := exit_atRoot atRoot done
  refine ⟨trace, ?_⟩
  change Answer.completed? ((s.recorder.exit s.clock).2.2.map Answer.exited) = some trace
  rw [done]
  rfl

theorem length_openKinds (r : Recorder) : r.openKinds.length = r.openFrames.length := by
  rw [openKinds, List.length_map, List.length_reverse]

/-- The endpoint of a trace in progress is the best of the candidates so far. -/
structure Chosen (register : AnalyzerRegister)
    (course : List (Moment Session Call (Outcome Answer))) (s : Session) : Prop where
  coherent : s.recorder.Coherent s.clock.zero
  analyzers : s.recorder.analyzers = register
  endpoint : s.recorder.isBuilding →
    s.recorder.endpoint = Endpoint.bestOf (course.flatMap (candidates register))

variable {register : AnalyzerRegister} {course : List (Moment Session Call (Outcome Answer))}

theorem Chosen.start (fresh : s.recorder.reset = s.recorder) :
    Chosen s.recorder.analyzers [] s := by
  refine ⟨.fresh fresh, rfl, ?_⟩
  intro building
  rw [← fresh] at building
  cases building

theorem Chosen.enter {op : Operation} {number : Nat} (h : Chosen register course s)
    (done : (s.recorder.enter s.clock op).1 = .done number) :
    (s.recorder.enter s.clock op).2.endpoint = Endpoint.bestOf
      ((proceed course (.at step s (.enter op))).flatMap (candidates register)) := by
  obtain ⟨same, candidate, enters⟩ := enter_enters (Prod.ext done rfl)
  have located := enters.located
  rw [analyzers_ready, h.analyzers, h.coherent.ready.depth, ← length_openKinds, ← same] at located
  have best := AnalyzerRegister.locate_done located
  have brought : candidates register (.at step s (.enter op)) =
      register.candidates op number (s.recorder.ready.openKinds.length + 1)
        s.recorder.ready.openKinds := by
    simp only [candidates, Moment.at, step, done, Outcome.map_done]
  rw [enters.endpoint, best, ← brought, proceed, opensRoot_enter done]
  cases building : s.recorder.ready.isBuilding with
  | false =>
      rw [h.coherent.ready.endpoint_of_idle building, Endpoint.prefer_none_left]
      simp
  | true =>
      have kept := ready_of_building building
      rw [kept] at building ⊢
      rw [h.endpoint building, ← Endpoint.bestOf_append]
      simp

theorem Chosen.step (h : Chosen register course s) (answered : Answered (.at step s call)) :
    Chosen register (proceed course (.at Recorder.step s call)) (Recorder.step s call).2 := by
  constructor
  · exact h.coherent.step answered
  · rw [← h.analyzers]
    exact congrArg (·.2.1) (setup_step s call)
  · intro building
    by_cases enters : ∃ op, call = .enter op
    · obtain ⟨op, rfl⟩ := enters
      obtain ⟨number, done⟩ := enter_answered answered
      exact h.enter done
    · have others : ∀ op, call ≠ .enter op := fun op same => enters ⟨op, same⟩
      obtain ⟨before, same⟩ := endpoint_step others building
      have none : candidates register (.at Recorder.step s call) = [] := by
        unfold candidates
        split
        · rename_i op number isEnter done
          exact absurd isEnter (others op)
        · rfl
      rw [same, h.endpoint before, proceed_of_not_enter others]
      simp [none]

/-- As long as nothing crashes, the endpoint of every completed trace is the first of the greatest
score among all candidates of its frames, in the order the frames were entered and, for one frame,
in the order of the register. Leaving the root does complete the trace. -/
theorem completed_endpoint_first_best {first : Session}
    {history : List (Moment Session Call (Outcome Answer))}
    (fresh : first.recorder.reset = first.recorder) (run : Run step Answered first history s) :
    (∀ call trace, Answer.completed? (step s call).1 = some trace →
      ∃ found, trace.endpoint = some found ∧ Endpoint.FirstBest found
        ((Recorder.course history).flatMap (candidates first.recorder.analyzers))) ∧
      (s.recorder.atRoot → (step s .exit).1.isDone →
        ∃ trace, Answer.completed? (step s .exit).1 = some trace) := by
  have chosen : Chosen first.recorder.analyzers (Recorder.course history) s :=
    run.book_invariant proceed [] (.start fresh) fun _ _ _ h answered => h.step answered
  refine ⟨?_, exit_completes⟩
  intro call trace completed
  obtain ⟨building, same⟩ := endpoint_completed completed
  have some := chosen.coherent.endpoint
  rw [building] at some
  obtain ⟨found, isFound⟩ := Option.isSome_iff_exists.mp some
  refine ⟨found, same.trans isFound, Endpoint.firstBest_of_bestOf ?_⟩
  rw [← chosen.endpoint building, isFound]

def Session.analyzed (analyzers : AnalyzerRegister) : Session :=
  { Session.plain 10 with recorder := { (Session.plain 10).recorder with analyzers } }

/-- One analyzer knows servlets, one both kinds; the third gives less for each level below the
root. -/
def Session.ranked : Session :=
  Session.analyzed [.typed ["servlet"] 10, .typed ["servlet", "db"] 10, .typed ["db"] 25 15]

/-- A servlet that calls another, and a database call of no greater score after it. -/
def servletBeforeDb : List Call :=
  [.enter { kind := "http", label := "root" }, .enter { kind := "servlet", label := "outer" },
    .enter { kind := "servlet", label := "inner" }, .exit, .exit,
    .enter { kind := "db", label := "query" }, .exit]

theorem first_of_equal_candidates :
    (∀ m ∈ moments step Session.ranked servletBeforeDb, Answered m) ∧
      ∃ trace found,
        Answer.completed? (step (after step Session.ranked servletBeforeDb) .exit).1 =
          some trace ∧
        trace.endpoint = some found ∧ found.frame = 2 ∧ Endpoint.FirstBest found
          ((Recorder.course (moments step Session.ranked servletBeforeDb)).flatMap
            (candidates Session.ranked.recorder.analyzers)) := by
  have ok : ∀ m ∈ moments step Session.ranked servletBeforeDb, Answered m := by
    decide +kernel
  have shown : (Answer.completed? (step (after step Session.ranked servletBeforeDb)
      .exit).1).map (fun trace => trace.endpoint.map Endpoint.frame) = some (some 2) := by
    decide +kernel
  obtain ⟨trace, completed, named⟩ := Option.map_eq_some_iff.mp shown
  obtain ⟨found, endpoint, first⟩ :=
    (completed_endpoint_first_best rfl (Run.of_moments ok)).1 .exit trace completed
  rw [endpoint] at named
  exact ⟨ok, trace, found, completed, endpoint, Option.some.inj named, first⟩

end

end Recorder
end SpanCapture
