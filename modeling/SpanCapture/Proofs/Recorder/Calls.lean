import SpanCapture.Proofs.Frame.Marks
import SpanCapture.Proofs.Run
import SpanCapture.Recorder.Exit

/-! Calls on a recorder, and what each of them can do. A call is answered, or cut short by a
crash; the state it leaves is there in both cases. Whatever holds along a run of calls is
derived from the statements on single calls here, which say all a call can do to the open
frames. -/
namespace SpanCapture

structure Session where
  clock : Clock
  recorder : Recorder

/-- An entry as it is left: its operation finalized, then its time closed. -/
def FrameEntry.left (clock : Clock) (e : FrameEntry) : FrameEntry :=
  ({ e with op := (e.op.finalize clock).2.1 } : FrameEntry).closed (e.op.finalize clock).1.now

namespace Recorder

inductive Call where
  | enter (op : Operation)
  | exit
  | discard (id : Nat)
  | dump
  | setHint (key : String) (value : Value)
  | setHintObject (key object : String)
  | setHintAtRoot (key : String) (value : Value)
  /-- Changes the current operation in whatever way. -/
  | change (f : Operation → Operation)
  | act (action : Action)
  | unwind (maxAge now : Nat)
  /-- Time goes by. -/
  | wait (nanos : Nat)

inductive Answer where
  | entered (id : Nat)
  | exited (exited : Option Exited)
  | flag (done : Bool)
  | reply (reply : Option Reply)
  | unwound (trace : Option CompletedTrace)
  | nothing

def Answer.ofReply : Option (Outcome Reply) → Outcome Answer
  | none => .done (.reply none)
  | some outcome => outcome.map fun reply => .reply (some reply)

def Answer.completed? : Outcome Answer → Option CompletedTrace
  | .done (.exited (some left)) => left.completed
  | .done (.unwound trace) => trace
  | _ => none

def step (s : Session) : Call → Outcome Answer × Session
  | .enter op =>
    let (outcome, r) := s.recorder.enter s.clock op
    (outcome.map .entered, { s with recorder := r })
  | .exit =>
    let (clock, r, outcome) := s.recorder.exit s.clock
    (outcome.map .exited, ⟨clock, r⟩)
  | .discard id =>
    let (done, r) := s.recorder.discard id
    (.done (.flag done), { s with recorder := r })
  | .dump =>
    let (done, r) := s.recorder.dump
    (.done (.flag done), { s with recorder := r })
  | .setHint key value => (.done .nothing, { s with recorder := s.recorder.setHint key value })
  | .setHintObject key object =>
    (.done .nothing, { s with recorder := s.recorder.setHintObject key object })
  | .setHintAtRoot key value =>
    let (done, r) := s.recorder.setHintAtRoot key value
    (.done (.flag done), { s with recorder := r })
  | .change f => (.done .nothing, { s with recorder := s.recorder.withOperation f })
  | .act action =>
    let (clock, r, outcome) := s.recorder.act s.clock action
    (Answer.ofReply outcome, ⟨clock, r⟩)
  | .unwind maxAge now =>
    let (clock, r, outcome) := s.recorder.unwind maxAge now s.clock
    (outcome.map .unwound, ⟨clock, r⟩)
  | .wait nanos => (.done .nothing, { s with clock := s.clock.advance nanos })

/-- A frame was opened: it is on top, with the next number and under the frame that was on
top, and the other frames differ from before by an endpoint mark at most. -/
structure Opens (clock : Clock) (op : Operation) (r r' : Recorder) : Prop where
  frames : ∃ e outer, r'.openFrames = .node e [] :: outer ∧
    e.unmarked = (FrameEntry.opened (r.lastId + 1) (r.top?.map Frame.id) op clock.now).unmarked ∧
    Frame.unmarkedIn outer = Frame.unmarkedIn r.openFrames
  lastId : r'.lastId = r.lastId + 1
  hints : r'.hints = r.hints ∨ r'.hints = r.hints.set HintName.aborted (.bool true)
  limits : r'.limits = r.limits
  identity : r'.identity = r.identity

theorem unmarkedIn_unmark (r : Recorder) :
    Frame.unmarkedIn r.unmark.openFrames = Frame.unmarkedIn r.openFrames := by
  unfold unmark
  split
  · exact Frame.unmarkedIn_adjustIn (Operation.unmarked_markEndpoint false) _ _
  · rfl

theorem push_cases (e : FrameEntry) (r : Recorder) :
    (r.push e).openFrames = .node e [] :: r.openFrames ∧ (r.push e).lastId = r.lastId ∧
      ((r.push e).hints = r.hints ∨
        (r.push e).hints = r.hints.set HintName.aborted (.bool true)) ∧
      (r.push e).limits = r.limits ∧ (r.push e).identity = r.identity := by
  unfold push
  dsimp only
  split
  · exact ⟨rfl, rfl, .inr rfl, rfl, rfl⟩
  · exact ⟨rfl, rfl, .inl rfl, rfl, rfl⟩

theorem consider_cases (candidate : Option Endpoint) (e : FrameEntry) (r : Recorder) :
    (r.consider candidate e).1.unmarked = e.unmarked ∧
      Frame.unmarkedIn (r.consider candidate e).2.openFrames = Frame.unmarkedIn r.openFrames ∧
      (r.consider candidate e).2.lastId = r.lastId ∧
      (r.consider candidate e).2.hints = r.hints ∧
      (r.consider candidate e).2.limits = r.limits ∧
      (r.consider candidate e).2.identity = r.identity := by
  unfold consider
  split
  · exact ⟨rfl, rfl, rfl, rfl, rfl, rfl⟩
  · split
    · have mark : ({ e with op := e.op.markEndpoint true } : FrameEntry).unmarked = e.unmarked := by
        simp only [FrameEntry.unmarked, Operation.unmarked_markEndpoint]
      refine ⟨mark, unmarkedIn_unmark r, ?_⟩
      unfold unmark
      split <;> exact ⟨rfl, rfl, rfl, rfl⟩
    · exact ⟨rfl, rfl, rfl, rfl, rfl, rfl⟩

/-- Opening a frame crashes in an analyzer, and then has only counted, or succeeds. -/
theorem enterFresh_cases (clock : Clock) (op : Operation) (r : Recorder) :
    (∃ message, r.enterFresh clock op = (.crashed message, r.countEntry clock)) ∨
      ∃ r', r.enterFresh clock op = (.done (r.lastId + 1), r') ∧ Opens clock op r r' := by
  unfold enterFresh
  dsimp only
  split
  · rename_i message _
    exact .inl ⟨message, rfl⟩
  · rename_i candidate _
    refine .inr ⟨_, Prod.ext (congrArg Outcome.done (id_consider ..)) rfl, ?_⟩
    generalize found : (r.countEntry clock).consider candidate _ = considered
    obtain ⟨e, counted⟩ := considered
    obtain ⟨entry, others, last, hints, limits, identity⟩ := found ▸ consider_cases candidate _ _
    obtain ⟨top, last', hints', limits', identity'⟩ := push_cases e counted
    exact ⟨⟨e, counted.openFrames, top, entry, others⟩, last'.trans last, hints ▸ hints',
      limits'.trans limits, identity'.trans identity⟩

inductive Exits (clock : Clock) (r : Recorder) : Clock × Recorder × Outcome (Option Exited) → Prop
  | idle : r.openFrames = [] → Exits clock r (clock, r, .done none)
  | crash {e : FrameEntry} {cs outer : List Frame} {message : String} :
      r.openFrames = .node e cs :: outer → (e.op.finalize clock).2.2 = .crashed message →
      Exits clock r ((e.op.finalize clock).1, { r with openFrames := outer }, .crashed message)
  | root {e : FrameEntry} {cs : List Frame} :
      r.openFrames = [.node e cs] → (e.op.finalize clock).2.2 = .done () →
      Exits clock r ((e.op.finalize clock).1, { r.reset with hints := [] },
        .done (some { info := e.left clock, completed := some {
          root := .node (e.left clock) cs, hints := r.hints, endpoint := r.endpoint
          start := r.start.getD (e.op.finalize clock).1.instant, identity := r.identity } }))
  | inner {e parent : FrameEntry} {cs siblings outer : List Frame} :
      r.openFrames = .node e cs :: .node parent siblings :: outer →
      (e.op.finalize clock).2.2 = .done () →
      Exits clock r ((e.op.finalize clock).1,
        { r with
          openFrames := .node parent (siblings ++ [.node (e.left clock) cs]) :: outer
          depth := r.depth - 1 },
        .done (some { info := e.left clock }))

theorem exits (clock : Clock) (r : Recorder) : Exits clock r (r.exit clock) := by
  generalize result : r.exit clock = exited
  cases frames : r.openFrames with
  | nil =>
      rw [exit_idle clock r frames] at result
      exact result ▸ .idle frames
  | cons frame outer =>
      obtain ⟨e, cs⟩ := frame
      have triple : e.op.finalize clock = ((e.op.finalize clock).1, (e.op.finalize clock).2.1,
        (e.op.finalize clock).2.2) := rfl
      cases finalized : (e.op.finalize clock).2.2 with
      | crashed message =>
          rw [finalized] at triple
          rw [exit, frames] at result
          dsimp only at result
          rw [triple] at result
          exact result ▸ .crash frames finalized
      | done =>
          rw [finalized] at triple
          rw [exit, frames] at result
          dsimp only at result
          rw [triple] at result
          cases outer with
          | nil => exact result ▸ .root frames finalized
          | cons parent outer =>
              obtain ⟨p, siblings⟩ := parent
              exact result ▸ .inner frames finalized

inductive Discards (id : Nat) (r : Recorder) : Bool × Recorder → Prop
  | refused : Discards id r (false, r)
  | root {frame : Frame} : r.root? = some frame → frame.id = id →
      Discards id r (true, r.setHint HintName.discard (.bool true))
  | closed {root target removed : Frame} {parent : Nat} {frames : List Frame} :
      r.root? = some root → root.id ≠ id → (∀ frame ∈ r.openFrames, frame.id ≠ id) →
      r.find? id = some target → target.containsException = false →
      Frame.pruneIn? parent id r.openFrames = some (removed, frames) →
      Discards id r
        (true, { r with openFrames := frames, frameCount := r.frameCount - removed.size })

theorem discards (id : Nat) (r : Recorder) : Discards id r (r.discard id) := by
  generalize result : r.discard id = discarded
  unfold discard at result
  split at result
  · exact result ▸ .refused
  · rename_i root isRoot
    split at result
    · rename_i here
      exact result ▸ .root isRoot here
    · rename_i notRoot
      split at result
      · exact result ▸ .refused
      · rename_i notOpen
        split at result
        · exact result ▸ .refused
        · rename_i target found
          split at result
          · exact result ▸ .refused
          · rename_i clean
            split at result
            · exact result ▸ .refused
            · unfold removeClosed at result
              split at result
              · exact result ▸ .refused
              · rename_i removed frames pruned
                have closed : ∀ frame ∈ r.openFrames, frame.id ≠ id := by
                  simpa using notOpen
                exact result ▸ .closed isRoot notRoot closed found (by simpa using clean) pruned

/-- What every exit keeps, and what it yields for every completed trace, a row of exits keeps
and yields. -/
theorem exitMany_keeps {P : Clock → Recorder → Prop} {Q : CompletedTrace → Prop}
    (keeps : ∀ clock r, P clock r → P (r.exit clock).1 (r.exit clock).2.1)
    (yields : ∀ clock r info trace, P clock r →
      (r.exit clock).2.2 = .done (some ⟨info, some trace⟩) → Q trace) (n : Nat) :
    ∀ clock r, P clock r → P (exitMany n clock r).1 (exitMany n clock r).2.1 ∧
      ∀ trace, (exitMany n clock r).2.2 = .done (some trace) → Q trace := by
  induction n with
  | zero =>
      intro clock r h
      refine ⟨h, ?_⟩
      intro trace none
      cases none
  | succ n ih =>
      intro clock r h
      have kept := keeps clock r h
      have yielded := yields clock r
      unfold exitMany
      split
      · rename_i clock' r' message result
        rw [result] at kept
        exact ⟨kept, fun trace none => by cases none⟩
      · rename_i clock' r' result
        rw [result] at kept
        exact ⟨kept, fun trace none => by cases none⟩
      · rename_i clock' r' exited result
        rw [result] at kept yielded
        obtain ⟨info, completed⟩ := exited
        cases completed with
        | none => exact ih clock' r' kept
        | some trace =>
            refine ⟨kept, ?_⟩
            intro trace' same
            cases same
            exact yielded info trace h rfl

/-- What every answered exit keeps holds until a row of them completes a trace. -/
theorem exitMany_yields {P : Clock → Recorder → Prop} {Q : CompletedTrace → Prop}
    (keeps : ∀ clock r left, P clock r → (r.exit clock).2.2 = .done left →
      P (r.exit clock).1 (r.exit clock).2.1)
    (yields : ∀ clock r info trace, P clock r →
      (r.exit clock).2.2 = .done (some ⟨info, some trace⟩) → Q trace) {n : Nat} {clock : Clock}
    {r : Recorder} {trace : CompletedTrace} (h : P clock r)
    (completed : (exitMany n clock r).2.2 = .done (some trace)) : Q trace := by
  induction n generalizing clock r with
  | zero => cases completed
  | succ n ih =>
      have kept := fun left => keeps clock r left h
      have yielded := fun info trace => yields clock r info trace h
      unfold exitMany at completed
      split at completed
      · cases completed
      · cases completed
      · rename_i clock' r' exited result
        rw [result] at kept yielded
        obtain ⟨info, left⟩ := exited
        cases left with
        | none => exact ih (kept _ rfl) completed
        | some trace =>
            cases completed
            exact yielded info trace rfl

/-- The recorder as a completed or dumped trace leaves it. -/
def cleared (r : Recorder) : Recorder := { r.reset with hints := [] }

/-- Nothing is open in a recorder of which nothing is left to reset. -/
theorem openFrames_of_reset {r : Recorder} (nothing : r.reset = r) : r.openFrames = [] := by
  rw [← nothing]
  rfl

/-- So many exits as frames are open complete the trace, unless one crashes. -/
theorem exitMany_completes {n : Nat} {clock : Clock} {r : Recorder}
    (length : r.openFrames.length = n + 1) (calm : (exitMany (n + 1) clock r).2.2.isDone) :
    ∃ trace, (exitMany (n + 1) clock r).2.2 = .done (some trace) ∧
      (exitMany (n + 1) clock r).2.1 = r.cleared := by
  induction n generalizing clock r with
  | zero =>
      rw [exitMany] at calm ⊢
      have left := exits clock r
      generalize r.exit clock = exited at left calm ⊢
      cases left with
      | idle frames => simp [frames] at length
      | crash frames _ => cases calm
      | root frames _ => exact ⟨_, rfl, rfl⟩
      | inner frames _ => simp [frames] at length
  | succ n ih =>
      rw [exitMany] at calm ⊢
      have left := exits clock r
      generalize r.exit clock = exited at left calm ⊢
      cases left with
      | idle frames => simp [frames] at length
      | crash frames _ => cases calm
      | root frames _ => simp [frames] at length
      | inner frames _ => exact ih (by simpa [frames] using length) calm

/-- Only exits and unwinding complete a trace. -/
theorem completed_cases {s : Session} {call : Call} {trace : CompletedTrace}
    (completed : Answer.completed? (step s call).1 = some trace) :
    (call = .exit ∧ ∃ info, (s.recorder.exit s.clock).2.2 = .done (some ⟨info, some trace⟩)) ∨
      ∃ maxAge now, call = .unwind maxAge now ∧
        (s.recorder.unwind maxAge now s.clock).2.2 = .done (some trace) := by
  cases call with
  | enter op =>
      change Answer.completed? ((s.recorder.enter s.clock op).1.map .entered) = _ at completed
      generalize (s.recorder.enter s.clock op).1 = answer at completed
      cases answer <;> cases completed
  | exit =>
      change Answer.completed? ((s.recorder.exit s.clock).2.2.map .exited) = _ at completed
      refine .inl ⟨rfl, ?_⟩
      cases answer : (s.recorder.exit s.clock).2.2 with
      | crashed message => rw [answer] at completed; cases completed
      | done left =>
          rw [answer] at completed
          cases left with
          | none => cases completed
          | some left =>
              obtain ⟨info, trace'⟩ := left
              change trace' = some trace at completed
              rw [completed]
              exact ⟨info, rfl⟩
  | act action =>
      change Answer.completed? (Answer.ofReply (s.recorder.act s.clock action).2.2) = _ at completed
      generalize (s.recorder.act s.clock action).2.2 = answer at completed
      rcases answer with _ | _ | _ <;> cases completed
  | unwind maxAge now =>
      change Answer.completed? ((s.recorder.unwind maxAge now s.clock).2.2.map .unwound) = _
        at completed
      refine .inr ⟨maxAge, now, rfl, ?_⟩
      cases answer : (s.recorder.unwind maxAge now s.clock).2.2 with
      | crashed message => rw [answer] at completed; cases completed
      | done left =>
          rw [answer] at completed
          exact congrArg Outcome.done completed
  | _ => cases completed

/-- An answered entering gives a number. -/
theorem enter_answered {s : Session} {op : Operation} (answered : (step s (.enter op)).1.isDone) :
    ∃ number, (s.recorder.enter s.clock op).1 = .done number := by
  change ((s.recorder.enter s.clock op).1.map Answer.entered).isDone at answered
  rw [Outcome.isDone_map] at answered
  exact Outcome.isDone_iff.mp answered

theorem exit_answered {s : Session} (answered : (step s .exit).1.isDone) :
    ∃ left, (s.recorder.exit s.clock).2.2 = .done left := by
  change ((s.recorder.exit s.clock).2.2.map Answer.exited).isDone at answered
  rw [Outcome.isDone_map] at answered
  exact Outcome.isDone_iff.mp answered

theorem unwind_answered {s : Session} {maxAge now : Nat}
    (answered : (step s (.unwind maxAge now)).1.isDone) :
    (s.recorder.unwind maxAge now s.clock).2.2.isDone := by
  change ((s.recorder.unwind maxAge now s.clock).2.2.map Answer.unwound).isDone at answered
  rwa [Outcome.isDone_map] at answered

/-- Whether the current frame has been open for so many nanoseconds. -/
def isDue (maxAge now : Nat) (r : Recorder) : Bool := (r.topAge? now).any fun age => maxAge ≤ age

theorem unwind_of_not_due {maxAge now : Nat} {r : Recorder} (h : r.isDue maxAge now = false)
    (clock : Clock) : r.unwind maxAge now clock = (clock, r, .done none) := by
  unfold unwind
  split
  · rfl
  · rename_i age top
    rw [isDue, top, Option.any_some, decide_eq_false_iff_not, Nat.not_le] at h
    rw [if_pos h]

theorem unwind_of_due {maxAge now : Nat} {r : Recorder} (h : r.isDue maxAge now)
    (clock : Clock) :
    r.unwind maxAge now clock = exitMany r.openFrames.length clock r.markOverdue := by
  unfold unwind
  split
  · rename_i top
    rw [isDue, top] at h
    cases h
  · rename_i age top
    rw [isDue, top, Option.any_some, decide_eq_true_iff] at h
    rw [if_neg (Nat.not_lt.mpr h)]

/-- What marking and every exit keep, unwinding keeps, however it ends. -/
theorem unwind_keeps {P : Clock → Recorder → Prop}
    (marks : ∀ clock r, P clock r → P clock r.markOverdue)
    (exits : ∀ clock r, P clock r → P (r.exit clock).1 (r.exit clock).2.1) (maxAge now : Nat)
    {clock : Clock} {r : Recorder} (h : P clock r) :
    P (r.unwind maxAge now clock).1 (r.unwind maxAge now clock).2.1 := by
  cases due : r.isDue maxAge now with
  | false =>
      rw [unwind_of_not_due due]
      exact h
  | true =>
      rw [unwind_of_due due]
      exact (exitMany_keeps (Q := fun _ => True) exits (fun _ _ _ _ _ _ => trivial) _ clock
        r.markOverdue (marks clock r h)).1

/-- Only a trace that is due is completed by unwinding. -/
theorem unwind_completed {maxAge now : Nat} {clock : Clock} {r : Recorder} {trace : CompletedTrace}
    (unwound : (r.unwind maxAge now clock).2.2 = .done (some trace)) :
    r.isDue maxAge now ∧
      (exitMany r.openFrames.length clock r.markOverdue).2.2 = .done (some trace) := by
  cases due : r.isDue maxAge now with
  | false =>
      rw [unwind_of_not_due due] at unwound
      cases unwound
  | true =>
      rw [unwind_of_due due] at unwound
      exact ⟨rfl, unwound⟩

inductive Changes (f : Operation → Operation) (r : Recorder) : Recorder → Prop
  | idle : r.openFrames = [] → Changes f r r
  | top {e : FrameEntry} {cs outer : List Frame} : r.openFrames = .node e cs :: outer →
      Changes f r { r with openFrames := .node { e with op := f e.op } cs :: outer }

theorem changes (f : Operation → Operation) (r : Recorder) : Changes f r (r.withOperation f) := by
  unfold withOperation
  split
  · rename_i frames
    exact .idle frames
  · rename_i frames
    exact .top frames

/-- An action changes the recorder as a change of the current operation does. -/
theorem act_eq_withOperation (clock : Clock) (action : Action) (r : Recorder) :
    (r.act clock action).2.1 = r.withOperation fun op => (op.act clock action).2.1 := by
  unfold act withOperation
  split <;> rfl

theorem openFrames_markOverdue (r : Recorder) :
    r.markOverdue.openFrames =
      (r.withOperation (Operation.put Operation.overdueKey (.bool true))).openFrames := by
  have changed := changes (Operation.put Operation.overdueKey (.bool true)) r
  generalize r.withOperation _ = r' at changed
  cases changed with
  | idle frames =>
      unfold markOverdue
      rw [frames]
      rfl
  | top frames =>
      unfold markOverdue
      rw [frames]
      rfl

theorem length_withOperation (f : Operation → Operation) (r : Recorder) :
    (r.withOperation f).openFrames.length = r.openFrames.length := by
  have changed := changes f r
  generalize r.withOperation f = r' at changed
  cases changed with
  | idle => rfl
  | top frames => rw [frames, List.length_cons, List.length_cons]

theorem lastId_withOperation (f : Operation → Operation) (r : Recorder) :
    (r.withOperation f).lastId = r.lastId := by
  have changed := changes f r
  generalize r.withOperation f = r' at changed
  cases changed <;> rfl

/-- Unwinding a trace that is due completes it, unless a script crashes. -/
theorem unwind_completes {maxAge now : Nat} {clock : Clock} {r : Recorder}
    (due : r.isDue maxAge now) (calm : (r.unwind maxAge now clock).2.2.isDone) :
    ∃ trace, (r.unwind maxAge now clock).2.2 = .done (some trace) ∧
      (r.unwind maxAge now clock).2.1 = r.cleared := by
  rw [unwind_of_due due] at calm ⊢
  cases frames : r.openFrames with
  | nil => simp [isDue, topAge?, top?, frames] at due
  | cons frame outer =>
      have length : r.markOverdue.openFrames.length = outer.length + 1 := by
        rw [openFrames_markOverdue, length_withOperation, frames, List.length_cons]
      rw [frames, List.length_cons] at calm
      exact exitMany_completes length calm

end Recorder
end SpanCapture
