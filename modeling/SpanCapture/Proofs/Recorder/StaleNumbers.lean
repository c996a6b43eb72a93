import SpanCapture.Proofs.Recorder.Course

/-! Numbers that callers keep. Whoever entered a frame may hold its number when the trace is long
gone, and every trace numbers its frames from one again. Discarding by such a number does nothing,
unless a frame of the trace in progress has been given the same number since. -/
namespace SpanCapture
namespace Frame

theorem mem_idsIn_of_mem {frame : Frame} {frames : List Frame} (member : frame ∈ frames) :
    frame.id ∈ idsIn frames := by
  obtain ⟨before, behind, rfl⟩ := List.append_of_mem member
  obtain ⟨e, cs⟩ := frame
  rw [idsIn_append, idsIn_cons]
  exact List.mem_append_right _ List.mem_cons_self

/-- Taking a child out brings no number in and moves none. -/
theorem idsIn_detach_sublist {id : Nat} {frames left : List Frame} {found : Frame}
    (detached : detach id frames = some (found, left)) : (idsIn left).Sublist (idsIn frames) := by
  induction frames using forest_induction generalizing left with
  | nil => cases detached
  | cons e cs rest _ after =>
      rw [idsIn_cons]
      rcases detach_cons_cases detached with ⟨-, rfl⟩ | ⟨-, later, others, rfl⟩
      · exact (List.sublist_append_right _ _).cons _
      · rw [idsIn_cons]
        exact ((after others).append_left _).cons_cons _

theorem idsIn_prune_sublist {parent id : Nat} {frames left : List Frame} {found : Frame}
    (pruned : pruneIn? parent id frames = some (found, left)) :
    (idsIn left).Sublist (idsIn frames) := by
  induction frames using forest_induction generalizing left with
  | nil => cases pruned
  | cons e cs rest below after =>
      rw [idsIn_cons]
      rcases prune_cons_cases pruned with ⟨inner, gone, rfl⟩ | ⟨later, others, rfl⟩
      · have children : (idsIn inner).Sublist (idsIn cs) := gone.elim idsIn_detach_sublist below
        rw [idsIn_cons]
        exact (children.append_right _).cons_cons _
      · rw [idsIn_cons]
        exact ((after others).append_left _).cons_cons _

/-- The same on a stack, read from the outermost frame on. -/
theorem idsIn_reverse_prune {parent id : Nat} {frames left : List Frame} {found : Frame}
    (pruned : pruneIn? parent id frames = some (found, left)) :
    (idsIn left.reverse).Sublist (idsIn frames.reverse) := by
  induction frames generalizing left with
  | nil => cases pruned
  | cons frame outer ih =>
      obtain ⟨e, cs⟩ := frame
      rw [idsIn_reverse_cons]
      rcases prune_cons_cases pruned with ⟨inner, gone, rfl⟩ | ⟨later, others, rfl⟩
      · have children : (idsIn inner).Sublist (idsIn cs) :=
          gone.elim idsIn_detach_sublist idsIn_prune_sublist
        rw [idsIn_reverse_cons, idsIn_cons, idsIn_cons]
        exact ((children.append_right _).cons_cons _).append_left _
      · rw [idsIn_reverse_cons]
        exact (ih others).append_right _

end Frame

namespace Recorder

def entered? (m : Moment Session Call (Outcome Answer)) : Option Nat :=
  match m.answer with
  | .done (.entered number) => some number
  | _ => none

/-- The numbers of the frames held, open and closed, in the order they were entered. -/
def held (r : Recorder) : List Nat := Frame.idsIn r.openFrames.reverse

/-- The numbers of a trace in progress were given in its course. -/
def Given (course : List (Moment Session Call (Outcome Answer))) (r : Recorder) : Prop :=
  ∀ id ∈ Frame.idsIn r.openFrames, ∃ m ∈ course, entered? m = some id

section
variable {s : Session} {call : Call} {r : Recorder} {clock : Clock} {id : Nat}
  {m : Moment Session Call (Outcome Answer)}
  {course earlier later history : List (Moment Session Call (Outcome Answer))}

/-- Once a root has been entered, what was before it does not matter. -/
theorem proceed_of_opened (opened : ∃ root ∈ later, opensRoot root)
    (course : List (Moment Session Call (Outcome Answer))) :
    later.foldl proceed course = Recorder.course later := by
  unfold Recorder.course
  induction later generalizing course with
  | nil =>
      obtain ⟨root, member, -⟩ := opened
      cases member
  | cons next rest ih =>
      rw [List.foldl_cons, List.foldl_cons]
      by_cases more : ∃ root ∈ rest, opensRoot root
      · rw [ih more, ih more (proceed [] next)]
      · obtain ⟨root, member, opens⟩ := opened
        rcases List.mem_cons.mp member with rfl | behind
        · rw [proceed, proceed, if_pos opens, if_pos opens]
        · exact absurd ⟨root, behind, opens⟩ more

theorem held_exit (clock : Clock) (r : Recorder) : (r.exit clock).2.1.held.Sublist r.held := by
  have left := exits clock r
  generalize r.exit clock = exited at left
  cases left with
  | idle => exact .refl _
  | crash frames =>
      rw [held, held, frames, Frame.idsIn_reverse_cons]
      exact List.sublist_append_left _ _
  | root => exact List.nil_sublist _
  | @inner e parent cs siblings outer frames =>
      have sameNumber : (e.left clock).id = e.id := rfl
      simp only [held, frames, Frame.idsIn_reverse_close cs siblings outer sameNumber,
        List.Sublist.refl]

theorem held_withOperation (f : Operation → Operation) (r : Recorder) :
    (r.withOperation f).held = r.held := by
  have changed := changes f r
  generalize r.withOperation f = r' at changed
  cases changed with
  | idle => rfl
  | top frames =>
      rw [held, held, frames, Frame.idsIn_reverse_cons, Frame.idsIn_reverse_cons, Frame.idsIn_cons,
        Frame.idsIn_cons]

theorem held_markOverdue (r : Recorder) : r.markOverdue.held = r.held := by
  rw [held, openFrames_markOverdue]
  exact held_withOperation _ r

theorem held_discard (id : Nat) (r : Recorder) : (r.discard id).2.held.Sublist r.held := by
  have discarded := discards id r
  generalize r.discard id = result at discarded
  cases discarded with
  | refused => exact .refl _
  | root => exact .refl _
  | closed _ _ _ _ _ pruned => exact Frame.idsIn_reverse_prune pruned

/-- Only entering brings numbers in. -/
theorem held_step (others : ∀ op, call ≠ .enter op) :
    (step s call).2.recorder.held.Sublist s.recorder.held := by
  cases call with
  | enter op => exact absurd rfl (others op)
  | exit => exact held_exit s.clock s.recorder
  | discard id => exact held_discard id s.recorder
  | dump => exact List.nil_sublist _
  | setHintAtRoot key value =>
      simp only [step, setHintAtRoot]
      split <;> exact .refl _
  | change f =>
      change (s.recorder.withOperation f).held.Sublist _
      simp only [held_withOperation, List.Sublist.refl]
  | act action =>
      change (s.recorder.act s.clock action).2.1.held.Sublist _
      simp only [act_eq_withOperation, held_withOperation, List.Sublist.refl]
  | unwind maxAge now =>
      refine unwind_keeps (P := fun _ r => r.held.Sublist s.recorder.held) ?_ ?_ maxAge now (.refl _)
      · intro clock r within
        rwa [held_markOverdue]
      · intro clock r within
        exact (held_exit clock r).trans within
  | _ => exact .refl _

theorem isBuilding_of_mem_idsIn (member : id ∈ Frame.idsIn r.openFrames) : r.isBuilding := by
  unfold isBuilding
  cases frames : r.openFrames with
  | nil =>
      rw [frames] at member
      cases member
  | cons => rfl

theorem mem_idsIn_ready (member : id ∈ Frame.idsIn r.ready.openFrames) :
    r.ready.isBuilding ∧ id ∈ Frame.idsIn r.openFrames := by
  have building := isBuilding_of_mem_idsIn member
  exact ⟨building, ready_of_building building ▸ member⟩

theorem Given.enter {op : Operation} (h : Given course s.recorder) :
    Given (proceed course (.at step s (.enter op))) (s.recorder.enter s.clock op).2 := by
  intro id member
  -- A number that was there before has been given in the course that goes on.
  have before (crashedOrBuilding : opensRoot (.at step s (.enter op)) = false)
      (there : id ∈ Frame.idsIn s.recorder.openFrames) :
      ∃ m ∈ proceed course (.at step s (.enter op)), entered? m = some id := by
    obtain ⟨m, listed, same⟩ := h id there
    rw [proceed, crashedOrBuilding]
    exact ⟨m, List.mem_append_left _ listed, same⟩
  cases answer : (s.recorder.enter s.clock op).1 with
  | crashed message =>
      rw [enter_crashed answer] at member
      obtain ⟨-, there⟩ := mem_idsIn_ready member
      have crashes : opensRoot (.at step s (.enter op)) = false := by
        simp only [opensRoot, Moment.at, step, answer, Outcome.map_crashed]
      exact before crashes there
  | done number =>
      obtain ⟨same, candidate, enters⟩ := enter_enters (Prod.ext answer rfl)
      rw [enters.idsIn, ← same] at member
      rcases List.mem_cons.mp member with rfl | member
      · refine ⟨.at step s (.enter op), ?_, ?_⟩
        · unfold proceed
          split
          · exact List.mem_singleton_self _
          · exact List.mem_append_right _ (List.mem_singleton_self _)
        · simp only [entered?, Moment.at, step, answer, Outcome.map_done]
      · obtain ⟨building, there⟩ := mem_idsIn_ready member
        have goesOn : opensRoot (.at step s (.enter op)) = false := by
          rw [opensRoot_enter answer, building]
          rfl
        exact before goesOn there

theorem Given.step (h : Given course s.recorder) (call : Call) :
    Given (proceed course (.at step s call)) (Recorder.step s call).2.recorder := by
  by_cases enters : ∃ op, call = .enter op
  · obtain ⟨op, rfl⟩ := enters
    exact h.enter
  · have others : ∀ op, call ≠ .enter op := fun op same => enters ⟨op, same⟩
    intro id member
    have before : id ∈ s.recorder.held :=
      (held_step others).subset (Frame.mem_idsIn_reverse.mpr member)
    obtain ⟨m, listed, same⟩ := h id (Frame.mem_idsIn_reverse.mp before)
    rw [proceed_of_not_enter others]
    exact ⟨m, List.mem_append_left _ listed, same⟩

/-- A number no frame of the trace has is refused. -/
theorem discard_of_absent (absent : id ∉ Frame.idsIn r.openFrames) : r.discard id = (false, r) := by
  have discarded := discards id r
  generalize r.discard id = result at discarded
  cases discarded with
  | refused => rfl
  | root isRoot here =>
      have member := Frame.mem_idsIn_of_mem (List.mem_of_getLast? isRoot)
      exact absurd (here ▸ member) absent
  | closed _ _ _ found => exact absurd (Frame.mem_idsIn_of_find found) absent

/-- A number that was given for a frame whose trace is gone: the recorder is idle, or a root has been
entered since. Whatever crashed in between, discarding by it is refused and changes nothing,
unless the number has been given once more, for a frame of the trace in progress. -/
theorem stale_number_harmless {limits : Limits} {analyzers : AnalyzerRegister}
    {identity : Identity}
    (run : Run step (fun _ => True) ⟨clock, { limits, analyzers, identity }⟩
      (earlier ++ m :: later) s)
    (given : entered? m = some id)
    (gone : s.recorder.isBuilding → ∃ root ∈ later, opensRoot root) :
    s.recorder.discard id = (false, s.recorder) ∨
      s.recorder.isBuilding ∧ ∃ again ∈ Recorder.course later, entered? again = entered? m := by
  have numbers : Given (Recorder.course (earlier ++ m :: later)) s.recorder :=
    run.book_invariant (R := fun course (s : Session) => Given course s.recorder) proceed []
      (fun id none => absurd none List.not_mem_nil) fun _ _ call h _ => h.step call
  by_cases present : id ∈ Frame.idsIn s.recorder.openFrames
  · have building := isBuilding_of_mem_idsIn present
    obtain ⟨again, listed, same⟩ := numbers id present
    rw [Recorder.course, List.foldl_append, List.foldl_cons,
      proceed_of_opened (gone building)] at listed
    exact .inr ⟨building, again, listed, same.trans given.symm⟩
  · exact .inl (discard_of_absent present)

/-- A trace of two frames, and the root of the next. -/
def nextRoot : List Call :=
  [.enter { kind := "http", label := "first" }, .enter { kind := "db", label := "query" }, .exit,
    .exit, .enter { kind := "http", label := "second" }]

theorem second_number_at_next_root :
    let r := (after step (Session.plain 10) nextRoot).recorder
    r.isBuilding ∧ r.discard 2 = (false, r) := by
  intro r
  let first := Session.plain 10
  let root := step first (.enter { kind := "http", label := "first" })
  let query : Moment Session Call (Outcome Answer) :=
    .at step root.2 (.enter { kind := "db", label := "query" })
  let later := moments step query.after [.exit, .exit, .enter { kind := "http", label := "second" }]
  have run : Run step (fun _ => True) first (moments step first nextRoot)
      (after step first nextRoot) := .of_moments fun _ _ => trivial
  have divided : moments step first nextRoot =
      [.at step first (.enter { kind := "http", label := "first" })] ++ query :: later := rfl
  rw [divided] at run
  have given : entered? query = some 2 := by decide +kernel
  have opened : ∃ root ∈ later, opensRoot root := by decide +kernel
  have once : ¬ ∃ again ∈ Recorder.course later, entered? again = entered? query := by decide +kernel
  refine ⟨by decide +kernel, ?_⟩
  exact (stale_number_harmless run given fun _ => opened).resolve_right fun again => once again.2

/-- The number of a completed root is that of the next root, which is then discarded by it. -/
theorem first_number_at_next_root :
    let history := moments step (Session.plain 10) nextRoot
    let r := (after step (Session.plain 10) nextRoot).recorder
    history.map entered? = [some 1, some 2, none, none, some 1] ∧
      history.map opensRoot = [true, false, false, false, true] ∧
      (r.discard 1).1 = true ∧
      r.hints.flag HintName.discard = false ∧
      (r.discard 1).2.hints.flag HintName.discard = true := by
  decide +kernel

end
end Recorder
end SpanCapture
