import SpanCapture.Proofs.Recorder.CallTree
import SpanCapture.Proofs.Recorder.Entering

/-! What a recorder counts and remembers beside its open frames. As long as nothing crashes, the
counters say how many frames are open and how many are held, the start is the time of the root,
and there is an endpoint just when a frame is open. An idle recorder is as it was made, but for
hints. -/
namespace SpanCapture
namespace Recorder

/-- Counters, start and endpoint agree with the open frames. The start is an instant on a clock of
the given zero. -/
structure Coherent (origin : Nat) (r : Recorder) : Prop where
  depth : r.depth = r.openFrames.length
  frameCount : r.frameCount = Frame.sizeAll r.openFrames
  start : r.start = r.root?.map fun root => Clock.instant ⟨origin, root.entry.span.start⟩
  endpoint : r.endpoint.isSome = r.isBuilding
  lastId : r.openFrames = [] → r.lastId = 0

def Answered (m : Moment Session Call (Outcome Answer)) : Prop := m.answer.isDone

instance : DecidablePred Answered := fun m => inferInstanceAs (Decidable (m.answer.isDone = true))

section
variable {origin : Nat} {clock : Clock} {op : Operation} {candidate : Option Endpoint}
  {r r' : Recorder}

theorem length_openings (r : Recorder) : r.openings.length = r.openFrames.length :=
  List.length_map _

theorem isBuilding_eq (r : Recorder) : r.isBuilding = !r.openings.isEmpty := by
  rw [isBuilding, openings, List.isEmpty_map]

theorem root_start (origin : Nat) (r : Recorder) :
    (r.root?.map fun root => Clock.instant ⟨origin, root.entry.span.start⟩) =
      r.openings.getLast?.map fun opening => Clock.instant ⟨origin, opening.start⟩ := by
  rw [openings, List.getLast?_map, Option.map_map]
  rfl

theorem openings_of_idle (idle : r.openFrames = []) : r.openings = [] := by
  rw [openings, idle]
  rfl

/-- A recorder of which nothing is left to reset. -/
theorem Coherent.fresh (h : r.reset = r) : r.Coherent origin := by
  rw [← h]
  exact ⟨rfl, rfl, rfl, rfl, fun _ => rfl⟩

theorem Coherent.endpoint_of_idle (h : r.Coherent origin) (idle : r.isBuilding = false) :
    r.endpoint = none := by
  have some := h.endpoint
  rw [idle] at some
  exact Option.isNone_iff_eq_none.mp (by simpa using some)

theorem Coherent.reset_eq (h : r.Coherent origin) (idle : r.openFrames = []) : r.reset = r := by
  have none := h.endpoint_of_idle (by rw [isBuilding, idle]; rfl)
  obtain ⟨depth, frameCount, start, endpoint, lastId⟩ := h
  have number := lastId idle
  rw [root?, idle] at start
  rw [idle] at depth frameCount
  obtain ⟨_, _, _, _, _, _, _, _, _, _⟩ := r
  simp only at idle depth frameCount start none number
  subst idle depth frameCount start none number
  rfl

/-- Only the openings matter, and how many frames are held. -/
theorem Coherent.congr (h : r.Coherent origin) (openings : r'.openings = r.openings)
    (depth : r'.depth = r.depth) (frameCount : r'.frameCount = Frame.sizeAll r'.openFrames)
    (start : r'.start = r.start) (endpoint : r'.endpoint = r.endpoint)
    (lastId : r'.lastId = r.lastId) : r'.Coherent origin := by
  refine ⟨?_, frameCount, ?_, ?_, ?_⟩
  · rw [depth, h.depth, ← length_openings, ← length_openings, openings]
  · rw [start, h.start, root_start, root_start, openings]
  · rw [endpoint, h.endpoint, isBuilding_eq, isBuilding_eq, openings]
  · intro idle
    have none : r.openFrames.length = 0 := by
      rw [← length_openings, ← openings, openings_of_idle idle]
      rfl
    rw [lastId]
    exact h.lastId (List.eq_nil_of_length_eq_zero none)

theorem isSome_prefer (current candidate : Option Endpoint) :
    (Endpoint.prefer current candidate).isSome = (current.isSome || candidate.isSome) := by
  cases candidate with
  | none => simp [Endpoint.prefer]
  | some found =>
      cases current with
      | none => rfl
      | some best =>
          rw [Endpoint.prefer_some]
          split <;> rfl

/-- What is located for a root is never nothing. -/
theorem Enters.isSome_of_idle (enters : Enters clock op candidate r r')
    (idle : r.openFrames = []) : candidate.isSome := by
  have located := enters.located
  have kinds : r.openKinds = [] := by
    rw [openKinds, idle]
    rfl
  rw [kinds] at located
  rw [AnalyzerRegister.locate_done located, Option.isSome_iff_ne_none, ne_eq,
    Endpoint.bestOf_eq_none_iff]
  exact AnalyzerRegister.candidates_root _ _ _ _

theorem Coherent.enters (h : r.Coherent clock.zero) (enters : Enters clock op candidate r r') :
    r'.Coherent clock.zero := by
  have openings := openings_opens enters.toOpens
  obtain ⟨e, outer, frames, -, others⟩ := enters.frames
  have building : r'.isBuilding := by
    rw [isBuilding, frames]
    rfl
  refine ⟨?_, ?_, ?_, ?_, ?_⟩
  · rw [enters.depth, h.depth, ← length_openings, ← length_openings, openings, List.length_cons]
  · rw [enters.frameCount, h.frameCount, frames, Frame.sizeAll, Frame.size, Frame.sizeAll,
      Frame.sizeAll_eq_of_unmarkedIn_eq others]
    omega
  · rw [enters.start, root_start, openings,
      List.getLast?_cons]
    cases idle : r.openFrames with
    | nil =>
        rw [openings_of_idle idle]
        rfl
    | cons frame rest =>
        have bottom := h.start
        rw [root_start] at bottom
        have some : r.openings ≠ [] := by
          rw [Recorder.openings, idle]
          exact List.cons_ne_nil _ _
        rw [List.getLast?_eq_some_getLast some] at bottom ⊢
        exact bottom
  · rw [building, enters.endpoint, isSome_prefer, h.endpoint]
    cases idle : r.openFrames with
    | nil => rw [enters.isSome_of_idle idle, Bool.or_true]
    | cons frame rest =>
        rw [isBuilding, idle]
        rfl
  · intro idle
    rw [frames] at idle
    cases idle

theorem Coherent.ready (h : r.Coherent origin) : r.ready.Coherent origin := by
  unfold Recorder.ready
  split
  · exact .fresh rfl
  · exact h

theorem Coherent.withOperation (h : r.Coherent origin) (f : Operation → Operation) :
    (r.withOperation f).Coherent origin := by
  have openings := openings_withOperation f r
  have changed := changes f r
  generalize r.withOperation f = r' at changed openings
  cases changed with
  | idle => exact h
  | top frames =>
      refine h.congr openings rfl ?_ rfl rfl rfl
      change r.frameCount = _
      rw [h.frameCount, frames]
      rfl

theorem Coherent.discard (h : r.Coherent origin) (id : Nat) : (r.discard id).2.Coherent origin := by
  have openings := openings_discard id r
  have discarded := discards id r
  generalize r.discard id = result at discarded openings
  cases discarded with
  | refused => exact h
  | root => exact h.congr openings rfl h.frameCount rfl rfl rfl
  | closed isRoot notRoot closed found clean pruned =>
      refine h.congr openings rfl ?_ rfl rfl rfl
      change r.frameCount - _ = _
      rw [h.frameCount, Frame.sizeAll_prune pruned]
      exact Nat.add_sub_cancel_left _ _

theorem Coherent.exit (h : r.Coherent origin) (calm : (r.exit clock).2.2.isDone) :
    (r.exit clock).2.1.Coherent origin := by
  have left := exits clock r
  generalize r.exit clock = exited at left calm
  cases left with
  | idle => exact h
  | crash => cases calm
  | root => exact .fresh rfl
  | @inner e parent cs siblings outer frames =>
      obtain ⟨depth, frameCount, start, endpoint, lastId⟩ := h
      rw [root?, frames, List.getLast?_cons_cons] at start
      rw [frames] at depth frameCount
      rw [isBuilding, frames] at endpoint
      refine ⟨?_, ?_, ?_, endpoint, ?_⟩
      · dsimp only
        rw [depth]
        rfl
      · dsimp only
        rw [frameCount]
        simp only [Frame.sizeAll, Frame.size, Frame.sizeAll_append]
        omega
      · dsimp only
        rw [start, root?]
        cases outer <;> rfl
      · intro none
        cases none

theorem Coherent.unwind {maxAge now : Nat} (h : r.Coherent origin)
    (calm : (r.unwind maxAge now clock).2.2.isDone) :
    (r.unwind maxAge now clock).2.1.Coherent origin := by
  cases due : r.isDue maxAge now with
  | false =>
      rw [unwind_of_not_due due]
      exact h
  | true =>
      obtain ⟨trace, -, cleared⟩ := unwind_completes due calm
      rw [cleared]
      exact .fresh rfl

theorem Coherent.setHintAtRoot (h : r.Coherent origin) (key : String) (value : Value) :
    (r.setHintAtRoot key value).2.Coherent origin := by
  unfold Recorder.setHintAtRoot
  split
  · exact h.congr rfl rfl h.frameCount rfl rfl rfl
  · exact h

/-- Time goes by, and the zero of the clock stays. -/
theorem zero_run (clock : Clock) (op : Operation) (tasks : List Task) :
    (op.run clock tasks).1.zero = clock.zero := by
  refine Operation.run_keeps (P := fun later _ => later.zero = clock.zero) ?_ (fun _ _ h => h)
    (fun _ _ h => h) clock op tasks rfl
  intro later op table action h
  cases action with
  | putJson key text =>
      simp only [Operation.apply]
      split
      · exact h
      · split <;> exact h
  | _ => exact h

theorem zero_exit (clock : Clock) (r : Recorder) : (r.exit clock).1.zero = clock.zero := by
  have left := exits clock r
  generalize r.exit clock = exited at left
  cases left with
  | idle => rfl
  | crash => exact zero_run clock _ _
  | root => exact zero_run clock _ _
  | inner => exact zero_run clock _ _

theorem zero_step (s : Session) (call : Call) : (step s call).2.clock.zero = s.clock.zero := by
  cases call with
  | exit => exact zero_exit s.clock s.recorder
  | act action =>
      simp only [step, act]
      split
      · rfl
      · exact zero_run s.clock _ _
  | unwind maxAge now =>
      refine unwind_keeps (P := fun later _ => later.zero = s.clock.zero) (fun _ _ h => h) ?_ maxAge
        now rfl
      intro later r h
      exact (zero_exit later r).trans h
  | _ => rfl

/-- An answered call keeps a recorder coherent. -/
theorem Coherent.step {s : Session} (h : s.recorder.Coherent s.clock.zero) {call : Call}
    (answered : (step s call).1.isDone) :
    (Recorder.step s call).2.recorder.Coherent (Recorder.step s call).2.clock.zero := by
  rw [zero_step]
  cases call with
  | enter op =>
      obtain ⟨number, done⟩ := enter_answered answered
      obtain ⟨-, candidate, enters⟩ := enter_enters (Prod.ext done rfl)
      exact h.ready.enters enters
  | exit =>
      exact h.exit (Outcome.isDone_iff.mpr (exit_answered answered))
  | discard id => exact h.discard id
  | dump => exact .fresh rfl
  | setHint key value => exact h.congr rfl rfl h.frameCount rfl rfl rfl
  | setHintObject key object => exact h.congr rfl rfl h.frameCount rfl rfl rfl
  | setHintAtRoot key value => exact h.setHintAtRoot key value
  | change f => exact h.withOperation f
  | act action =>
      change (s.recorder.act s.clock action).2.1.Coherent s.clock.zero
      rw [act_eq_withOperation]
      exact h.withOperation _
  | unwind maxAge now =>
      exact h.unwind (unwind_answered answered)
  | wait nanos => exact h

def setup (r : Recorder) : Limits × AnalyzerRegister × Identity :=
  (r.limits, r.analyzers, r.identity)

theorem setup_ready (r : Recorder) : r.ready.setup = r.setup := by
  unfold ready
  split <;> rfl

theorem analyzers_ready (r : Recorder) : r.ready.analyzers = r.analyzers :=
  congrArg (·.2.1) (setup_ready r)

theorem setup_enter (clock : Clock) (op : Operation) (r : Recorder) :
    (r.enter clock op).2.setup = r.setup := by
  rw [← setup_ready r]
  cases answered : (r.enter clock op).1 with
  | crashed message =>
      rw [enter_crashed answered]
      rfl
  | done number =>
      obtain ⟨-, candidate, enters⟩ := enter_enters (Prod.ext answered rfl)
      rw [setup, enters.limits, enters.analyzers, enters.identity]
      rfl

theorem setup_exit (clock : Clock) (r : Recorder) : (r.exit clock).2.1.setup = r.setup := by
  have left := exits clock r
  generalize r.exit clock = exited at left
  cases left <;> rfl

/-- No call changes what a recorder was made with. -/
theorem setup_step (s : Session) (call : Call) :
    (step s call).2.recorder.setup = s.recorder.setup := by
  cases call with
  | enter op => exact setup_enter s.clock op s.recorder
  | exit => exact setup_exit s.clock s.recorder
  | discard id =>
      have discarded := discards id s.recorder
      simp only [step]
      generalize s.recorder.discard id = result at discarded
      cases discarded <;> rfl
  | setHintAtRoot key value =>
      simp only [step, setHintAtRoot]
      split <;> rfl
  | change f =>
      have changed := changes f s.recorder
      simp only [step]
      generalize s.recorder.withOperation f = r at changed
      cases changed <;> rfl
  | act action =>
      simp only [step, act]
      split <;> rfl
  | unwind maxAge now =>
      refine unwind_keeps (P := fun _ r => r.setup = s.recorder.setup) (fun _ _ h => h) ?_ maxAge now
        rfl
      intro clock r h
      exact (setup_exit clock r).trans h
  | _ => rfl

theorem hints_of_completed {s : Session} {call : Call} {trace : CompletedTrace}
    (completed : Answer.completed? (step s call).1 = some trace) :
    (step s call).2.recorder.hints = [] := by
  rcases completed_cases completed with ⟨rfl, info, exited⟩ | ⟨maxAge, now, rfl, unwound⟩
  · simp only [step]
    have left := exits s.clock s.recorder
    generalize s.recorder.exit s.clock = result at left exited
    cases left with
    | root => rfl
    | _ => cases exited
  · simp only [step]
    have calm : (s.recorder.unwind maxAge now s.clock).2.2.isDone := by
      rw [unwound]
      rfl
    obtain ⟨_, -, cleared⟩ := unwind_completes (unwind_completed unwound).1 calm
    rw [cleared]
    rfl

/-- After whatever answered calls on a new recorder its counters, its start and its endpoint agree
with the open frames. Leaving a frame and discarding one never take off more than was counted. An
idle recorder is like a new one but for hints, and these are gone right after a trace was completed
or dumped. -/
theorem counts_agree_with_frames {limits : Limits} {analyzers : AnalyzerRegister}
    {identity : Identity} {clock : Clock} {s : Session}
    {history : List (Moment Session Call (Outcome Answer))}
    (run : Run step Answered ⟨clock, { limits, analyzers, identity }⟩ history s) :
    s.recorder.Coherent s.clock.zero ∧
      (s.recorder.openFrames ≠ [] → 1 ≤ s.recorder.depth) ∧
      (∀ parent id removed left,
        Frame.pruneIn? parent id s.recorder.openFrames = some (removed, left) →
        removed.size ≤ s.recorder.frameCount) ∧
      (s.recorder.openFrames = [] →
        s.recorder = { limits, analyzers, identity, hints := s.recorder.hints }) ∧
      ∀ call, call = .dump ∨ (Answer.completed? (step s call).1).isSome →
        (step s call).2.recorder.hints = [] := by
  have kept : s.recorder.Coherent s.clock.zero ∧
      s.recorder.setup = (limits, analyzers, identity) := by
    refine run.invariant (P := fun s => s.recorder.Coherent s.clock.zero ∧
      s.recorder.setup = (limits, analyzers, identity)) ⟨.fresh rfl, rfl⟩ ?_
    intro s call ⟨coherent, made⟩ answered
    exact ⟨coherent.step answered, (setup_step s call).trans made⟩
  obtain ⟨coherent, made⟩ := kept
  refine ⟨coherent, ?_, ?_, ?_, ?_⟩
  · intro busy
    rw [coherent.depth]
    exact List.length_pos_iff.mpr busy
  · intro parent id removed left pruned
    rw [coherent.frameCount, Frame.sizeAll_prune pruned]
    exact Nat.le_add_right _ _
  · intro idle
    obtain ⟨rfl, rfl, rfl⟩ : s.recorder.limits = limits ∧ s.recorder.analyzers = analyzers ∧
        s.recorder.identity = identity := by simpa [setup] using made
    exact (coherent.reset_eq idle).symm
  · rintro call (rfl | completed)
    · rfl
    · obtain ⟨trace, same⟩ := Option.isSome_iff_exists.mp completed
      exact hints_of_completed same

/-- A root with two children left, of which the first is discarded. -/
def oneChildLess : List Call :=
  [.enter { kind := "http", label := "root" }, .wait 5, .enter { kind := "db", label := "first" },
    .exit, .enter { kind := "db", label := "second" }, .exit, .setHint "note" (.bool true),
    .discard 2]

theorem counts_of_one_child_less :
    (∀ m ∈ moments step (Session.plain 10) oneChildLess, Answered m) ∧
      let s := after step (Session.plain 10) oneChildLess
      s.recorder.Coherent s.clock.zero ∧ s.recorder.frameCount = 2 ∧ 1 ≤ s.recorder.depth ∧
        (step s .dump).2.recorder.hints = [] := by
  have ok : ∀ m ∈ moments step (Session.plain 10) oneChildLess, Answered m := by decide +kernel
  obtain ⟨coherent, deep, -, -, gone⟩ := counts_agree_with_frames (Run.of_moments ok)
  exact ⟨ok, coherent, by decide +kernel, deep (by decide +kernel), gone .dump (.inl rfl)⟩

end

end Recorder
end SpanCapture
