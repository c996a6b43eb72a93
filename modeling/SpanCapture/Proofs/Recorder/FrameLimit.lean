import SpanCapture.Proofs.Recorder.Restart

/-! The frame limit. A recorder never holds more than one frame beyond its limit, whatever crashes
meanwhile, and no completed trace has more. With that frame the trace is marked as too large, and
from then on it loses frames only: the next entering drops it and begins another. The mark is a hint
like any other, so all this is said of runs in which nobody else writes it. -/
namespace SpanCapture
namespace Recorder

def Call.hint? : Call → Option String
  | .setHint key _ | .setHintObject key _ | .setHintAtRoot key _ => some key
  | _ => none

/-- The mark of a trace too large is left to the recorder. -/
def LeavesMark (m : Moment Session Call (Outcome Answer)) : Prop :=
  m.call.hint? ≠ some HintName.aborted

instance : DecidablePred LeavesMark := fun _ => inferInstanceAs (Decidable (_ ≠ _))

/-- No frame is entered either. -/
def GoesOn (m : Moment Session Call (Outcome Answer)) : Prop :=
  LeavesMark m ∧ ∀ op, m.call ≠ .enter op

/-- No more frames are held than counted, and one beyond the limit at most; the trace is marked
then. -/
structure Bounded (r : Recorder) : Prop where
  counted : r.held.length ≤ r.frameCount
  marked : r.limits.maxFrames < r.held.length → r.isAborted
  bounded : r.held.length ≤ r.limits.maxFrames + 1

/-- Marked, or nothing is left of the trace. -/
def Spent (r : Recorder) : Prop := r.isAborted ∨ r.reset = r

/-- A trace that takes up no frame any more: what is held of it, or completed, is among given
frames, and an entering begins another trace or, if it crashes, leaves nothing. -/
structure Sealed (frames : List Nat) (s : Session) : Prop where
  held : s.recorder.held.Sublist frames
  completed : ∀ call trace, Answer.completed? (step s call).1 = some trace →
    (Frame.idsIn [trace.root]).Sublist frames
  entered : ∀ op number r, s.recorder.enter s.clock op = (.done number, r) →
    number = 1 ∧ r.held = [1] ∧ r.openings = [⟨1, none, s.clock.now⟩]
  crashed : ∀ op, (s.recorder.enter s.clock op).1.isDone = false →
    (s.recorder.enter s.clock op).2.openFrames = []

/-- What calls other than entering do to the counts and the mark: nothing of the trace is left, or
the mark is as it was and the counts are as right as they were. -/
inductive Sheds (r r' : Recorder) : Prop
  | gone : r'.reset = r' → Sheds r r'
  | kept : r'.isAborted = r.isAborted → (r.reset = r → r'.reset = r') →
      (r.held.length ≤ r.frameCount → r'.held.length ≤ r'.frameCount) → Sheds r r'

section
variable {r r' r'' : Recorder} {s : Session} {call : Call} {clock : Clock} {op : Operation}
  {number : Nat} {trace : CompletedTrace} {frames : List Nat}

theorem perm_held (r : Recorder) : r.held.Perm (Frame.idsIn r.openFrames) :=
  (Frame.perm_entriesIn_reverse r.openFrames).map FrameEntry.id

theorem held_of_reset (nothing : r.reset = r) : r.held = [] := by
  rw [held, openFrames_of_reset nothing]
  rfl

theorem Sheds.refl (r : Recorder) : Sheds r r := .kept rfl id id

theorem Sheds.trans (first : Sheds r r') (later : Sheds r' r'') : Sheds r r'' := by
  cases later with
  | gone nothing => exact .gone nothing
  | kept mark idle count =>
      cases first with
      | gone nothing => exact .gone (idle nothing)
      | kept mark' idle' count' =>
          refine .kept (mark.trans mark') ?_ ?_
          · intro nothing
            exact idle (idle' nothing)
          · intro right
            exact count (count' right)

/-- A call on a trace in progress that lets neither the mark nor the counter move. -/
theorem Sheds.of_building (building : r.openFrames ≠ []) (mark : r'.isAborted = r.isAborted)
    (held : r'.held.length ≤ r.held.length) (count : r'.frameCount = r.frameCount) :
    Sheds r r' := by
  refine .kept mark ?_ ?_
  · intro nothing
    exact absurd (openFrames_of_reset nothing) building
  · intro right
    rw [count]
    exact Nat.le_trans held right

theorem sheds_setHint {key : String} (other : key ≠ HintName.aborted) (value : Hint) (r : Recorder) :
    Sheds r { r with hints := r.hints.insert key value } := by
  refine .kept ?_ ?_ id
  · change Hints.flag HintName.aborted (Keyed.insert key value r.hints) = _
    unfold isAborted Hints.flag Hints.value?
    rw [Keyed.find?_insert_of_ne value (Ne.symm other)]
  · intro nothing
    rw [← nothing]
    rfl

theorem sheds_withOperation (f : Operation → Operation) (r : Recorder) :
    Sheds r (r.withOperation f) := by
  have held := held_withOperation f r
  have changed := changes f r
  generalize r.withOperation f = r' at changed held
  cases changed with
  | idle => exact .refl r
  | top frames =>
      refine .of_building ?_ rfl (Nat.le_of_eq (congrArg _ held)) rfl
      rw [frames]
      exact List.cons_ne_nil _ _

theorem sheds_exit (clock : Clock) (r : Recorder) : Sheds r (r.exit clock).2.1 := by
  have fewer := (held_exit clock r).length_le
  have left := exits clock r
  generalize r.exit clock = exited at left fewer
  cases left with
  | idle => exact .refl r
  | root => exact .gone rfl
  | crash frames =>
      refine .of_building ?_ rfl fewer rfl
      rw [frames]
      exact List.cons_ne_nil _ _
  | inner frames =>
      refine .of_building ?_ rfl fewer rfl
      rw [frames]
      exact List.cons_ne_nil _ _

theorem sheds_discard (id : Nat) (r : Recorder) : Sheds r (r.discard id).2 := by
  have discarded := discards id r
  generalize r.discard id = result at discarded
  cases discarded with
  | refused => exact .refl r
  | root => exact sheds_setHint (by decide) _ r
  | @closed root target removed parent left isRoot _ _ _ _ pruned =>
      refine .kept rfl ?_ ?_
      · intro nothing
        rw [root?, openFrames_of_reset nothing] at isRoot
        cases isRoot
      · -- As many frames are taken off the count as are taken out.
        intro right
        have sizes := Frame.sizeAll_prune pruned
        rw [(perm_held _).length_eq, Frame.idsIn, List.length_map, ← Frame.sizeAll_eq] at right ⊢
        change Frame.sizeAll left ≤ r.frameCount - removed.size
        omega

theorem sheds_markOverdue (r : Recorder) : Sheds r r.markOverdue := by
  have marks (hints : Hints) : ((hints.set HintName.overdue (.bool true)).set HintName.discard
      (.bool true)).flag HintName.aborted = hints.flag HintName.aborted := by
    rw [Hints.flag_set_of_ne _ (by decide), Hints.flag_set_of_ne _ (by decide)]
  refine .kept (marks r.hints) ?_ ?_
  · intro nothing
    rw [← nothing]
    rfl
  · intro right
    rw [held_markOverdue]
    exact right

theorem sheds_step (goesOn : GoesOn (.at step s call)) :
    Sheds s.recorder (step s call).2.recorder := by
  obtain ⟨mark, others⟩ := goesOn
  have apart {key : String} (writes : call.hint? = some key) : key ≠ HintName.aborted := by
    rintro rfl
    exact mark writes
  cases call with
  | enter op => exact absurd rfl (others op)
  | exit => exact sheds_exit s.clock s.recorder
  | discard id => exact sheds_discard id s.recorder
  | dump => exact .gone rfl
  | setHint key value => exact sheds_setHint (apart rfl) _ s.recorder
  | setHintObject key object => exact sheds_setHint (apart rfl) _ s.recorder
  | setHintAtRoot key value =>
      simp only [step, setHintAtRoot]
      split
      · exact sheds_setHint (apart rfl) _ s.recorder
      · exact .refl _
  | change f => exact sheds_withOperation f s.recorder
  | act action =>
      change Sheds s.recorder (s.recorder.act s.clock action).2.1
      rw [act_eq_withOperation]
      exact sheds_withOperation _ s.recorder
  | unwind maxAge now =>
      refine unwind_keeps (P := fun _ r => Sheds s.recorder r) ?_ ?_ maxAge now (.refl _)
      · intro clock r sheds
        exact sheds.trans (sheds_markOverdue r)
      · intro clock r sheds
        exact sheds.trans (sheds_exit clock r)
  | wait nanos => exact .refl _

theorem Bounded.fresh (nothing : r.reset = r) : r.Bounded := by
  have none := held_of_reset nothing
  refine ⟨?_, ?_, ?_⟩ <;> simp [none]

theorem Bounded.sheds (h : r.Bounded) (limits : r'.limits = r.limits)
    (held : r'.held.Sublist r.held) (sheds : Sheds r r') : r'.Bounded := by
  cases sheds with
  | gone nothing => exact .fresh nothing
  | kept mark _ count =>
      have fewer := held.length_le
      refine ⟨count h.counted, ?_, ?_⟩
      · intro tooMany
        rw [limits] at tooMany
        rw [mark]
        exact h.marked (Nat.lt_of_lt_of_le tooMany fewer)
      · rw [limits]
        exact Nat.le_trans fewer h.bounded

/-- An entering starts below the limit. -/
theorem Bounded.ready (h : r.Bounded) :
    r.ready.held.length ≤ r.ready.frameCount ∧ r.ready.held.length ≤ r.ready.limits.maxFrames := by
  unfold Recorder.ready
  split
  · exact ⟨Nat.zero_le _, Nat.zero_le _⟩
  · rename_i sound
    refine ⟨h.counted, ?_⟩
    apply Nat.le_of_not_lt
    intro tooMany
    exact sound (h.marked tooMany)

theorem isAborted_push (e : FrameEntry) (tooMany : r.limits.maxFrames < r.frameCount) :
    (r.push e).isAborted := by
  unfold push
  dsimp only
  split
  · exact Hints.flag_set_self HintName.aborted true r.hints
  · rename_i marked
    simpa [tooMany, isAborted] using marked

/-- With one frame too many counted the trace is marked. -/
theorem isAborted_enter (entered : r.enter clock op = (.done number, r'))
    (tooMany : r'.limits.maxFrames < r'.frameCount) : r'.isAborted := by
  change r.ready.enterFresh clock op = _ at entered
  unfold enterFresh at entered
  dsimp only at entered
  split at entered
  · cases entered
  · have pushed := congrArg Prod.snd entered
    dsimp only at pushed
    subst pushed
    rw [push_eq] at tooMany
    exact isAborted_push _ tooMany

theorem Enters.length_held {candidate : Option Endpoint} (enters : Enters clock op candidate r r') :
    r'.held.length = r.held.length + 1 := by
  rw [(perm_held r').length_eq, enters.idsIn, List.length_cons, (perm_held r).length_eq]

theorem Bounded.enter (h : r.Bounded) (clock : Clock) (op : Operation) :
    (r.enter clock op).2.Bounded := by
  obtain ⟨counted, room⟩ := h.ready
  cases answer : (r.enter clock op).1 with
  | crashed message =>
      rw [enter_crashed answer]
      refine ⟨Nat.le_succ_of_le counted, ?_, Nat.le_succ_of_le room⟩
      intro tooMany
      exact absurd room (Nat.not_le_of_lt tooMany)
  | done number =>
      obtain ⟨-, candidate, enters⟩ := enter_enters (enter_eq answer)
      have more := enters.length_held
      have limits := congrArg Limits.maxFrames enters.limits
      have count := enters.frameCount
      refine ⟨by omega, ?_, by omega⟩
      intro tooMany
      exact isAborted_enter (enter_eq answer) (by omega)

theorem Bounded.step (h : s.recorder.Bounded) (leaves : LeavesMark (.at step s call)) :
    (Recorder.step s call).2.recorder.Bounded := by
  by_cases enters : ∃ op, call = .enter op
  · obtain ⟨op, rfl⟩ := enters
    exact h.enter s.clock op
  · have others : ∀ op, call ≠ .enter op := fun op same => enters ⟨op, same⟩
    have limits := congrArg Prod.fst (setup_step s call)
    exact h.sheds limits (held_step others) (sheds_step ⟨leaves, others⟩)

theorem exited_held {info : FrameEntry}
    (exited : (r.exit clock).2.2 = .done (some ⟨info, some trace⟩)) :
    (Frame.idsIn [trace.root]).Sublist r.held := by
  have left := exits clock r
  generalize r.exit clock = result at left exited
  cases left with
  | root frames =>
      cases exited
      rw [held, frames, List.reverse_singleton, Frame.idsIn_cons, Frame.idsIn_cons]
      exact .refl _
  | _ => cases exited

/-- The frames of a completed trace were held when the completing call came. -/
theorem completed_held (completed : Answer.completed? (step s call).1 = some trace) :
    (Frame.idsIn [trace.root]).Sublist s.recorder.held := by
  rcases completed_cases completed with ⟨-, info, exited⟩ | ⟨maxAge, now, -, unwound⟩
  · exact exited_held exited
  · obtain ⟨-, result⟩ := unwind_completed unwound
    refine (exitMany_keeps (P := fun _ r => r.held.Sublist s.recorder.held)
      (Q := fun trace => (Frame.idsIn [trace.root]).Sublist s.recorder.held) ?_ ?_
      _ s.clock s.recorder.markOverdue ?_).2 trace result
    · intro clock r within
      exact (held_exit clock r).trans within
    · intro clock r info trace within exited
      exact (exited_held exited).trans within
    · simp only [held_markOverdue, List.Sublist.refl]

theorem size_eq_length_idsIn (root : Frame) : root.size = (Frame.idsIn [root]).length := by
  rw [Frame.idsIn, List.length_map, ← Frame.sizeAll_eq]
  rfl

theorem Spent.sheds (h : r.Spent) (sheds : Sheds r r') : r'.Spent := by
  cases sheds with
  | gone nothing => exact .inr nothing
  | kept mark idle _ =>
      rcases h with marked | nothing
      · exact .inl (mark.trans marked)
      · exact .inr (idle nothing)

/-- The next entering starts from nothing. -/
theorem Spent.ready (h : r.Spent) : r.ready.openFrames = [] ∧ r.ready.lastId = 0 := by
  unfold Recorder.ready
  split
  · exact ⟨rfl, rfl⟩
  · rename_i unmarked
    have nothing := h.resolve_left unmarked
    rw [← nothing]
    exact ⟨rfl, rfl⟩

theorem Spent.sealed (h : s.recorder.Spent) (held : s.recorder.held.Sublist frames) :
    Sealed frames s := by
  obtain ⟨none, first⟩ := h.ready
  refine ⟨held, ?_, ?_, ?_⟩
  · intro call trace completed
    exact (completed_held completed).trans held
  · intro op number r entered
    obtain ⟨same, candidate, enters⟩ := enter_enters entered
    have openings := openings_opens enters.toOpens
    rw [first, openings_of_idle none] at openings
    have frames := perm_held r
    rw [enters.idsIn, none, first] at frames
    exact ⟨same.trans (congrArg (· + 1) first), List.perm_singleton.mp frames, openings⟩
  · intro op crashed
    cases answer : (s.recorder.enter s.clock op).1 with
    | done number =>
        rw [answer] at crashed
        cases crashed
    | crashed message =>
        rw [enter_crashed answer]
        exact none

/-- A recorder made with any limit, whatever has been called and has crashed, as long as nobody else
writes the mark of a trace too large: it holds one frame beyond its limit at most, and so does every
trace that is completed. Beyond the limit the trace is marked, and a marked trace takes up no frame
until the next entering, which begins another. -/
theorem frames_within_limit {limits : Limits} {analyzers : AnalyzerRegister} {identity : Identity}
    {history : List (Moment Session Call (Outcome Answer))}
    (run : Run step LeavesMark ⟨clock, { limits, analyzers, identity }⟩ history s) :
    s.recorder.held.length ≤ limits.maxFrames + 1 ∧
      (∀ call trace, Answer.completed? (step s call).1 = some trace →
        trace.root.size ≤ limits.maxFrames + 1) ∧
      (limits.maxFrames < s.recorder.held.length → s.recorder.isAborted) ∧
      (s.recorder.isAborted → ∀ later last, Run step GoesOn s later last →
        Sealed s.recorder.held last) := by
  have kept : s.recorder.Bounded ∧ s.recorder.limits = limits := by
    refine run.invariant (P := fun s => s.recorder.Bounded ∧ s.recorder.limits = limits)
      ⟨.fresh rfl, rfl⟩ ?_
    intro s call ⟨bounded, same⟩ leaves
    exact ⟨bounded.step leaves, (congrArg Prod.fst (setup_step s call)).trans same⟩
  obtain ⟨bounded, rfl⟩ := kept
  refine ⟨bounded.bounded, ?_, bounded.marked, ?_⟩
  · intro call trace completed
    rw [size_eq_length_idsIn]
    exact Nat.le_trans (completed_held completed).length_le bounded.bounded
  · intro aborted later last more
    have spent : last.recorder.Spent ∧ last.recorder.held.Sublist s.recorder.held := by
      refine more.invariant (P := fun last => last.recorder.Spent ∧
        last.recorder.held.Sublist s.recorder.held) ⟨.inl aborted, .refl _⟩ ?_
      intro last call ⟨spent, within⟩ goesOn
      exact ⟨spent.sheds (sheds_step goesOn), (held_step goesOn.2).trans within⟩
    exact spent.1.sealed spent.2

/-- A root and a frame one too many, whose script crashes as it is left. -/
def crashingChild : List Call :=
  [.enter { kind := "http", label := "root" },
    .enter { kind := "db", label := "child", pending := [[.crash "boom"]] }]

theorem crashing_child_beyond_limit :
    let s := after step (Session.plain 1) crashingChild
    let last := (step s .exit).2
    (∀ m ∈ moments step (Session.plain 1) crashingChild, LeavesMark m) ∧
      s.recorder.held = [1, 2] ∧ s.recorder.isAborted ∧ (step s .exit).1.isDone = false ∧
      Sealed [1, 2] last ∧ last.recorder.held = [1] ∧ last.recorder.isAborted := by
  intro s last
  have leaves : ∀ m ∈ moments step (Session.plain 1) crashingChild, LeavesMark m := by decide +kernel
  have frames : s.recorder.held = [1, 2] := by decide +kernel
  have run : Run step LeavesMark (Session.plain 1) (moments step (Session.plain 1) crashingChild) s :=
    .of_moments leaves
  obtain ⟨-, -, marked, closed⟩ := frames_within_limit run
  rw [frames] at marked closed
  have aborted : s.recorder.isAborted := marked (by decide)
  have left : Run step GoesOn s [.at step s .exit] last :=
    .next Call.exit .start ⟨by decide +kernel, fun _ => nofun⟩
  refine ⟨leaves, frames, aborted, ?_, closed aborted _ last left, ?_, ?_⟩ <;> decide +kernel

end
end Recorder
end SpanCapture
