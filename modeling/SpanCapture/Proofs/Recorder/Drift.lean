import SpanCapture.Proofs.Recorder.Counters

/-! Counters that drift. An entering moves the counters before the analyzers are asked, and a
leaving pops the frame before it moves the depth, so a call that an analyzer or a script cuts short
leaves the counters ahead of the open frames. How far they are ahead is a sum over the calls since
the recorder was last reset: all later frames of the trace are numbered by it, analyzers are told a
depth that is too great by it, and with the end of the trace it is gone. Open frames, endpoint and
hints are as before an entering that crashed. -/
namespace SpanCapture
namespace Recorder

/-- What happened to the counters since the last reset: how many enterings there were, and by how
much the depth and the number of frames are ahead of the frames that are there. -/
structure Drift where
  entered : Nat := 0
  depth : Nat := 0
  frames : Nat := 0
  deriving Repr, DecidableEq

namespace Drift

def enter (answered : Bool) (d : Drift) : Drift :=
  if answered then { d with entered := d.entered + 1 }
  else { entered := d.entered + 1, depth := d.depth + 1, frames := d.frames + 1 }

/-- Frames were to be left: a completed trace ends the account, and a crash loses frames. -/
def leave (answer : Outcome Answer) (lost : Nat) (d : Drift) : Drift :=
  if answer.isDone then if (Answer.completed? answer).isSome then {} else d
  else { d with depth := d.depth + 1, frames := d.frames + lost }

def note (d : Drift) (m : Moment Session Call (Outcome Answer)) : Drift :=
  match m.call with
  | .enter _ => (if m.before.recorder.isAborted then {} else d).enter m.answer.isDone
  | .exit | .unwind _ _ =>
    d.leave m.answer <|
      Frame.sizeAll m.before.recorder.openFrames - Frame.sizeAll m.after.recorder.openFrames
  | .dump => {}
  | _ => d

end Drift

/-- The counters of a recorder are those of its frames and an account. -/
structure Drifts (d : Drift) (r : Recorder) : Prop where
  depth : r.depth = r.openFrames.length + d.depth
  frameCount : r.frameCount = Frame.sizeAll r.openFrames + d.frames
  lastId : r.lastId = d.entered

section
variable {d : Drift} {r r' : Recorder} {clock : Clock} {op : Operation} {message : String}

/-- A recorder of which nothing is left to reset. -/
theorem Drifts.fresh (nothing : r.reset = r) : r.Drifts {} := by
  rw [← nothing]
  exact ⟨rfl, rfl, rfl⟩

theorem Drifts.congr (h : r.Drifts d) (length : r'.openFrames.length = r.openFrames.length)
    (size : Frame.sizeAll r'.openFrames = Frame.sizeAll r.openFrames) (depth : r'.depth = r.depth)
    (frameCount : r'.frameCount = r.frameCount) (lastId : r'.lastId = r.lastId) : r'.Drifts d := by
  refine ⟨?_, ?_, lastId.trans h.lastId⟩
  · rw [depth, length, h.depth]
  · rw [frameCount, size, h.frameCount]

theorem Drifts.ready (h : r.Drifts d) : r.ready.Drifts (if r.isAborted then {} else d) := by
  unfold Recorder.ready
  split
  · exact .fresh rfl
  · exact h

/-- An entering that crashes leaves all counters one further ahead. -/
theorem Drifts.countEntry (h : r.Drifts d) (clock : Clock) :
    (r.countEntry clock).Drifts (d.enter false) := by
  refine ⟨?_, ?_, congrArg (· + 1) h.lastId⟩
  · exact (congrArg (· + 1) h.depth).trans (Nat.add_assoc ..)
  · exact (congrArg (· + 1) h.frameCount).trans (Nat.add_assoc ..)

theorem Drifts.enters {candidate : Option Endpoint} (h : r.Drifts d)
    (enters : Enters clock op candidate r r') : r'.Drifts (d.enter true) := by
  obtain ⟨e, outer, frames, -, others⟩ := enters.frames
  have length : outer.length = r.openFrames.length := by
    rw [← List.length_map, ← Frame.map_id_unmarkedIn outer, others, Frame.map_id_unmarkedIn,
      List.length_map]
  refine ⟨?_, ?_, enters.lastId.trans (congrArg (· + 1) h.lastId)⟩
  · rw [enters.depth, h.depth, frames, List.length_cons, length]
    exact Nat.add_right_comm ..
  · rw [enters.frameCount, h.frameCount, frames, Frame.sizeAll, Frame.size, Frame.sizeAll,
      Frame.sizeAll_eq_of_unmarkedIn_eq others]
    simp only [Drift.enter, if_true]
    omega

theorem Drifts.enter (h : r.Drifts d) (clock : Clock) (op : Operation) :
    (r.enter clock op).2.Drifts
      ((if r.isAborted then {} else d).enter (r.enter clock op).1.isDone) := by
  cases answer : (r.enter clock op).1 with
  | crashed message =>
      rw [enter_crashed answer]
      exact h.ready.countEntry clock
  | done number =>
      obtain ⟨-, candidate, enters⟩ := enter_enters (Prod.ext answer rfl)
      exact h.ready.enters enters

theorem size_withOperation (f : Operation → Operation) (r : Recorder) :
    Frame.sizeAll (r.withOperation f).openFrames = Frame.sizeAll r.openFrames := by
  have changed := changes f r
  generalize r.withOperation f = r' at changed
  cases changed with
  | idle => rfl
  | top frames =>
      rw [frames]
      rfl

theorem Drifts.withOperation (h : r.Drifts d) (f : Operation → Operation) :
    (r.withOperation f).Drifts d := by
  have length := length_withOperation f r
  have size := size_withOperation f r
  have changed := changes f r
  generalize r.withOperation f = r' at changed length size
  cases changed with
  | idle => exact h
  | top => exact h.congr length size rfl rfl rfl

theorem size_markOverdue (r : Recorder) :
    Frame.sizeAll r.markOverdue.openFrames = Frame.sizeAll r.openFrames := by
  rw [openFrames_markOverdue, size_withOperation]

theorem Drifts.markOverdue (h : r.Drifts d) : r.markOverdue.Drifts d := by
  refine h.congr ?_ (size_markOverdue r) rfl rfl rfl
  rw [openFrames_markOverdue, length_withOperation]

theorem Drifts.discard (h : r.Drifts d) (id : Nat) : (r.discard id).2.Drifts d := by
  have openings := openings_discard id r
  have discarded := discards id r
  generalize r.discard id = result at discarded openings
  cases discarded with
  | refused => exact h
  | root => exact h.congr rfl rfl rfl rfl rfl
  | closed isRoot notRoot closed found clean pruned =>
      refine ⟨?_, ?_, h.lastId⟩
      · rw [← length_openings, openings, length_openings]
        exact h.depth
      · have size := Frame.sizeAll_prune pruned
        have count := h.frameCount
        simp only
        omega

/-- The frame that a crash takes off is lost with all below it. -/
theorem Drifts.crash {e : FrameEntry} {cs outer : List Frame} (h : r.Drifts d)
    (frames : r.openFrames = .node e cs :: outer) :
    Drifts (d.leave (.crashed message) (Frame.sizeAll r.openFrames - Frame.sizeAll outer))
      { r with openFrames := outer } := by
  obtain ⟨depth, frameCount, lastId⟩ := h
  rw [frames, List.length_cons] at depth
  rw [frames, Frame.sizeAll] at frameCount ⊢
  refine ⟨?_, ?_, lastId⟩
  · exact depth.trans (Nat.add_right_comm _ _ _)
  · change r.frameCount = Frame.sizeAll outer + (d.frames + (_ - Frame.sizeAll outer))
    omega

/-- A frame closed below the next one stays, and the depth goes down with the frames. -/
theorem Drifts.close (e' : FrameEntry) {e p : FrameEntry} {cs siblings outer : List Frame}
    (h : r.Drifts d) (frames : r.openFrames = .node e cs :: .node p siblings :: outer) :
    Frame.sizeAll (.node p (siblings ++ [.node e' cs]) :: outer) = Frame.sizeAll r.openFrames ∧
      Drifts d { r with
        openFrames := .node p (siblings ++ [.node e' cs]) :: outer, depth := r.depth - 1 } := by
  obtain ⟨depth, frameCount, lastId⟩ := h
  have size : Frame.sizeAll (.node p (siblings ++ [.node e' cs]) :: outer) =
      Frame.sizeAll r.openFrames := by
    simp only [frames, Frame.sizeAll, Frame.size, Frame.sizeAll_append]
    omega
  rw [frames, List.length_cons] at depth
  refine ⟨size, ?_, frameCount.trans (congrArg (· + d.frames) size.symm), lastId⟩
  simp only [depth, List.length_cons]
  omega

theorem Drifts.exit (h : r.Drifts d) (clock : Clock) :
    (r.exit clock).2.1.Drifts (d.leave ((r.exit clock).2.2.map .exited)
      (Frame.sizeAll r.openFrames - Frame.sizeAll (r.exit clock).2.1.openFrames)) := by
  have left := exits clock r
  generalize r.exit clock = exited at left
  cases left with
  | idle => exact h
  | crash frames => exact h.crash frames
  | root => exact .fresh rfl
  | inner frames => exact (h.close _ frames).2

theorem Drifts.exitMany (n : Nat) (clock : Clock) (h : r.Drifts d) :
    (exitMany n clock r).2.1.Drifts (d.leave ((exitMany n clock r).2.2.map .unwound)
      (Frame.sizeAll r.openFrames - Frame.sizeAll (exitMany n clock r).2.1.openFrames)) := by
  induction n generalizing clock r with
  | zero => exact h
  | succ n ih =>
      rw [Recorder.exitMany]
      have left := exits clock r
      generalize r.exit clock = exited at left
      cases left with
      | idle => exact h
      | crash frames => exact h.crash frames
      | root => exact .fresh rfl
      | @inner e p cs siblings outer frames =>
          -- The frames are as many as before, so nothing is lost up to here.
          obtain ⟨size, closed⟩ := h.close (e.left clock) frames
          rw [← size]
          exact ih _ closed

theorem Drifts.unwind (maxAge now : Nat) (clock : Clock) (h : r.Drifts d) :
    (r.unwind maxAge now clock).2.1.Drifts (d.leave ((r.unwind maxAge now clock).2.2.map .unwound)
      (Frame.sizeAll r.openFrames -
        Frame.sizeAll (r.unwind maxAge now clock).2.1.openFrames)) := by
  cases due : r.isDue maxAge now with
  | false =>
      rw [unwind_of_not_due due]
      exact h
  | true =>
      rw [unwind_of_due due, ← size_markOverdue]
      exact h.markOverdue.exitMany _ clock

/-- Every call leaves the counters as the account of it says. -/
theorem Drifts.step {s : Session} (h : s.recorder.Drifts d) (call : Call) :
    (Recorder.step s call).2.recorder.Drifts (d.note (.at Recorder.step s call)) := by
  cases call with
  | enter op =>
      have entered := h.enter s.clock op
      rw [← Outcome.isDone_map Answer.entered] at entered
      exact entered
  | exit => exact h.exit s.clock
  | discard id => exact h.discard id
  | dump => exact .fresh rfl
  | setHint key value => exact h.congr rfl rfl rfl rfl rfl
  | setHintObject key object => exact h.congr rfl rfl rfl rfl rfl
  | setHintAtRoot key value =>
      simp only [Recorder.step, setHintAtRoot]
      split
      · exact h.congr rfl rfl rfl rfl rfl
      · exact h
  | change f => exact h.withOperation f
  | act action =>
      change (s.recorder.act s.clock action).2.1.Drifts d
      rw [act_eq_withOperation]
      exact h.withOperation _
  | unwind maxAge now => exact h.unwind maxAge now s.clock
  | wait nanos => exact h

theorem ready_of_sound (sound : r.isAborted = false) : r.ready = r := if_neg (by simp [sound])

/-- What an entering on a recorder that is not aborted leaves when an analyzer crashes. -/
theorem enter_crashed_of_sound (sound : r.isAborted = false)
    (crashed : (r.enter clock op).1 = .crashed message) :
    (r.enter clock op).2 = { r with
      start := if r.openFrames.isEmpty then some clock.instant else r.start
      lastId := r.lastId + 1
      frameCount := r.frameCount + 1
      depth := r.depth + 1 } := by
  rw [enter_crashed crashed, ready_of_sound sound]
  rfl

/-- An exit answers by the open frames, the endpoint, the hints and the start of the trace. -/
theorem exit_congr {r' : Recorder} (frames : r'.openFrames = r.openFrames)
    (gathered : r'.hints = r.hints ∧ r'.endpoint = r.endpoint ∧ r'.identity = r.identity)
    (start : r.openFrames ≠ [] → r'.start = r.start) :
    (r'.exit clock).2.2 = (r.exit clock).2.2 := by
  obtain ⟨hints, endpoint, identity⟩ := gathered
  unfold Recorder.exit
  rw [frames]
  split
  · rfl
  · rename_i frame outer building
    have begun := start (by rw [building]; exact List.cons_ne_nil _ _)
    split
    · rfl
    · cases outer with
      | nil => simp only [complete, hints, endpoint, identity, begun]
      | cons parent outer =>
          obtain ⟨p, siblings⟩ := parent
          rfl

/-- After whatever calls on a new recorder, whatever crashed meanwhile, the counters are those of
the frames and the account of the calls since the last reset. An entering on a recorder that is not
aborted, if an analyzer crashes, leaves frames, endpoint and hints as they were, and every counter
one further ahead: the next entering that is answered gets a number and a depth one too great, and
the analyzers are told this depth. Leaving and dropping frames answer as if it had not been. -/
theorem crashed_entering_moves_counters {limits : Limits} {analyzers : AnalyzerRegister}
    {identity : Identity} {clock : Clock} {s : Session}
    {history : List (Moment Session Call (Outcome Answer))}
    (run : Run step (fun _ => True) ⟨clock, { limits, analyzers, identity }⟩ history s) :
    let r := s.recorder
    let drift := history.foldl Drift.note {}
    r.Drifts drift ∧ ∀ op message, r.isAborted = false →
      (r.enter s.clock op).1 = .crashed message →
      let left := (r.enter s.clock op).2
      left = { r with
        start := if r.openFrames.isEmpty then some s.clock.instant else r.start
        lastId := r.lastId + 1
        frameCount := r.frameCount + 1
        depth := r.depth + 1 } ∧
      left.depth = left.openFrames.length + drift.depth + 1 ∧
      (∀ later next number r', left.enter later next = (.done number, r') →
        number = r.lastId + 2 ∧ r'.depth = r.depth + 2 ∧ r'.frameCount = r.frameCount + 2 ∧
        ∃ candidate, analyzers.locate next number r'.depth r.openKinds = .done candidate) ∧
      ∀ later, (left.exit later).2.2 = (r.exit later).2.2 ∧ left.dump = r.dump := by
  have kept : s.recorder.Drifts (history.foldl Drift.note {}) ∧
      s.recorder.setup = (limits, analyzers, identity) := by
    refine run.book_invariant (R := fun d s => s.recorder.Drifts d ∧
      s.recorder.setup = (limits, analyzers, identity)) Drift.note {} ⟨.fresh rfl, rfl⟩ ?_
    intro d s call ⟨drifts, made⟩ _
    exact ⟨drifts.step call, (setup_step s call).trans made⟩
  obtain ⟨drifts, made⟩ := kept
  refine ⟨drifts, fun op message sound crashed => ?_⟩
  have same := enter_crashed_of_sound sound crashed
  generalize (s.recorder.enter s.clock op).2 = left at same
  have still : left.isAborted = false := same ▸ sound
  have told : s.recorder.analyzers = analyzers := congrArg (·.2.1) made
  refine ⟨same, ?_, ?_, fun later => ⟨?_, ?_⟩⟩
  · rw [same]
    exact congrArg (· + 1) drifts.depth
  · intro later next number r' entered
    obtain ⟨first, candidate, enters⟩ := enter_enters entered
    rw [ready_of_sound still, same] at first enters
    refine ⟨first, enters.depth, enters.frameCount, candidate, ?_⟩
    rw [first, enters.depth, ← told]
    exact enters.located
  · rw [same]
    refine exit_congr rfl ⟨rfl, rfl, rfl⟩ fun building => ?_
    exact if_neg (by rwa [List.isEmpty_iff])
  · rw [same]
    rfl

end

def failingOnPages : Analyzer where
  kinds := ["servlet"]
  locate _ _ _ := .crashed "analyzer failed"

/-- An analyzer that names a query and says which depth it was told. -/
def sayingDepth : Analyzer where
  kinds := ["sql"]
  locate op frame depth := .done <| some {
    name := "query", resource := op.label, sample := "depth=" ++ toString depth, score := 7
    kind := op.kind, frame }

def Session.failingOnPages : Session :=
  { clock := ⟨0, 0⟩
    recorder := {
      limits := ⟨1000, []⟩, analyzers := [Recorder.failingOnPages, sayingDepth]
      identity := { context := 1, threadId := "main" } } }

def page : Operation := { kind := "servlet", label := "page" }

def query : Operation := { kind := "sql", label := "SELECT" }

/-- A page is lost below the root, and the query after it has a number to spare. -/
def lostPage : List Call := [.enter { kind := "http", label := "root" }, .enter page, .enter query]

theorem lost_pages_move_counters :
    let s := after step Session.failingOnPages lostPage
    let r := s.recorder
    let left := (r.enter s.clock page).2
    r.isAborted = false ∧ (r.enter s.clock page).1 = .crashed "analyzer failed" ∧
      r.openFrames.length = 2 ∧ r.Drifts ⟨3, 1, 1⟩ ∧ left.depth = left.openFrames.length + 2 ∧
      (left.enter s.clock { kind := "db", label := "next" }).1 = .done 5 ∧
      ∀ later next number r', left.enter later next = (.done number, r') →
        number = 5 ∧ r'.depth = 5 ∧ ∃ candidate,
          AnalyzerRegister.locate next 5 5 ["http", "sql"] [failingOnPages, sayingDepth] =
            .done candidate := by
  intro s r left
  have sound : r.isAborted = false := by decide +kernel
  have crashed : (r.enter s.clock page).1 = .crashed "analyzer failed" := by decide +kernel
  have run : Run step (fun _ => True) Session.failingOnPages
      (moments step Session.failingOnPages lostPage) s := .of_moments fun _ _ => trivial
  have account : (moments step Session.failingOnPages lostPage).foldl Drift.note {} =
      ⟨3, 1, 1⟩ := by decide +kernel
  obtain ⟨drifts, lost⟩ := crashed_entering_moves_counters run
  rw [account] at drifts lost
  obtain ⟨-, depth, numbers, -⟩ := lost page "analyzer failed" sound crashed
  refine ⟨sound, crashed, by decide +kernel, drifts, depth, by decide +kernel, ?_⟩
  intro later next number r' entered
  obtain ⟨first, deep, -, located⟩ := numbers later next number r' entered
  have last : r.lastId = 3 := drifts.lastId
  have kinds : r.openKinds = ["http", "sql"] := by decide +kernel
  have told : r.depth = 3 := by decide +kernel
  rw [last] at first
  rw [told] at deep
  rw [first, deep, kinds] at located
  exact ⟨first, deep, located⟩

/-- The root of a trace is lost to a crash, and the next root is entered as number two at depth
two. -/
theorem lost_root_counted :
    let s := Session.failingOnPages
    let left := (s.recorder.enter s.clock page).2
    s.recorder.isAborted = false ∧ (s.recorder.enter s.clock page).1 = .crashed "analyzer failed" ∧
      left ≠ s.recorder ∧ left.openFrames.length = 0 ∧ left.depth = 1 ∧
      (s.recorder.enter s.clock query).1 = .done 1 ∧ (left.enter s.clock query).1 = .done 2 ∧
      ((s.recorder.enter s.clock query).2.endpoint.map Endpoint.sample) = some "depth=1" ∧
      ((left.enter s.clock query).2.endpoint.map Endpoint.sample) = some "depth=2" := by
  have depth : (Session.failingOnPages.recorder.enter ⟨0, 0⟩ page).2.depth = 1 := by decide +kernel
  refine ⟨by decide +kernel, by decide +kernel, fun same => ?_, by decide +kernel, depth, ?_⟩
  · have before : Session.failingOnPages.recorder.depth = 0 := rfl
    have after := (congrArg Recorder.depth same).symm.trans depth
    rw [before] at after
    cases after
  · decide +kernel

end Recorder
end SpanCapture
