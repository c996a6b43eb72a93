import SpanCapture.Proofs.Collection.Share
import SpanCapture.Proofs.Recorder.Openings
import SpanCapture.Proofs.Service.Boards

/-! The share of downgraded traces. Every root that opens, in whatever context, takes one decision,
and nothing else does: neither a frame below a root nor a probe, nor anything asked of the settings.
So the decisions of a run are those on roots in a row, and while the settings ask for one percentage
the share is exact. -/
namespace SpanCapture

/-- A frame opens a root if none was open, or if the trace before had grown too large. -/
theorem Recorder.atRoot_enter {clock : Clock} {op : Operation} {number : Nat} {r r' : Recorder}
    (done : r.enter clock op = (.done number, r')) :
    r'.atRoot = (!r.isBuilding || r.isAborted) := by
  obtain ⟨-, opens⟩ := enter_done done
  have grown := congrArg List.length (openings_opens opens)
  rw [List.length_cons, openings, openings, List.length_map, List.length_map] at grown
  rw [atRoot, grown, isBuilding]
  cases r.isAborted with
  | true => exact (Bool.or_true _).symm
  | false =>
      rw [if_neg Bool.false_ne_true]
      cases r.openFrames <;> rfl

namespace Service

def decision? (m : Moment Service Call (Outcome Answer)) : Option Bool :=
  if opensRoot m then some (m.before.board.decideRoot endpointStrategy).1 else none

def askedPercent (s : Service) : Nat :=
  Switchboard.clampPercent (Strategy.ratioSetting s.board.settings)

section
variable {s : Service} {tracker : RatioTracker} {percent : Nat} {call : Call} {calls : List Call}

theorem tracks_kept (h : s.board.Tracks endpointStrategy tracker)
    (undecided : call.Asks (· ≠ .decideRoot endpointStrategy))
    (inner : opensRoot (.at step s call) = false) :
    (step s call).2.board.Tracks endpointStrategy tracker := by
  have result := boards s call
  rw [inner] at result
  generalize (step s call).2.board = board at result
  cases result with
  | kept => exact h
  | collected => exact Switchboard.Seats.collect h nofun _
  | changed change =>
      obtain ⟨asked, apart, same⟩ := undecided
      rw [same]
      exact h.step apart

theorem tracks_decided (h : s.board.Tracks endpointStrategy tracker)
    (root : opensRoot (.at step s call) = true) :
    (step s call).2.board.Tracks endpointStrategy (tracker.setPercent s.askedPercent).decide.2 := by
  have result := boards s call
  rw [root] at result
  generalize (step s call).2.board = board at result
  cases result with
  | decided => exact h.decideRoot

theorem tracked_step (h : s.board.Tracks endpointStrategy tracker)
    (undecided : call.Asks (· ≠ .decideRoot endpointStrategy)) :
    ∃ next, (step s call).2.board.Tracks endpointStrategy next := by
  cases root : opensRoot (.at step s call) with
  | true => exact ⟨_, tracks_decided h root⟩
  | false => exact ⟨tracker, tracks_kept h undecided root⟩

theorem tracked_moments (h : s.board.Tracks endpointStrategy tracker)
    (undecided : ∀ call ∈ calls, call.Asks (· ≠ .decideRoot endpointStrategy)) :
    ∀ m ∈ moments step s calls, ∃ now, m.before.board.Tracks endpointStrategy now := by
  induction calls generalizing s tracker with
  | nil => exact List.forall_mem_nil _
  | cons call rest ih =>
      obtain ⟨here, later⟩ := List.forall_mem_cons.mp undecided
      obtain ⟨next, tracks⟩ := tracked_step h here
      exact List.forall_mem_cons.mpr ⟨⟨tracker, h⟩, ih tracks later⟩

/-- The decisions of a run are the verdicts on roots in a row. -/
theorem decided_after (bounded : percent ≤ 100) (h : s.board.Tracks endpointStrategy tracker)
    (undecided : ∀ call ∈ calls, call.Asks (· ≠ .decideRoot endpointStrategy))
    (held : ∀ m ∈ moments step s calls, opensRoot m = true → m.before.askedPercent = percent) :
    let decided := (moments step s calls).filterMap decision?
    decided = RatioTracker.verdicts percent tracker.decisions decided.length ∧
      ∃ last, (after step s calls).board.Tracks endpointStrategy last ∧
        last.decisions = tracker.decisions + (if percent = 0 then 0 else decided.length) ∧
        last.downgraded = tracker.downgraded + decided.count true := by
  induction calls generalizing s tracker with
  | nil => exact ⟨rfl, tracker, h, by simp [moments], rfl⟩
  | cons call rest ih =>
      obtain ⟨here, later⟩ := List.forall_mem_cons.mp undecided
      obtain ⟨now, onward⟩ := List.forall_mem_cons.mp held
      intro decided
      cases root : opensRoot (.at step s call) with
      | false =>
          have none : decision? (.at step s call) = none := if_neg (by simp [root])
          have same : decided = (moments step (step s call).2 rest).filterMap decision? :=
            List.filterMap_cons_none none
          rw [same]
          exact ih (tracks_kept h here root) later onward
      | true =>
          have one : decision? (.at step s call) = some (s.board.decideRoot endpointStrategy).1 :=
            if_pos root
          have asked : s.askedPercent = percent := now root
          have next := tracks_decided h root
          rw [asked] at next
          obtain ⟨verdict, counter, down⟩ := RatioTracker.decide_setPercent bounded tracker
          obtain ⟨row, last, tracks, decisions, downgraded⟩ := ih next later onward
          have first : (s.board.decideRoot endpointStrategy).1 =
              (tracker.decisions % 100 < percent : Bool) := by
            rw [Switchboard.decideRoot_eq h, ← verdict, ← asked]
            rfl
          have same : decided = (tracker.decisions % 100 < percent : Bool) ::
              (moments step (step s call).2 rest).filterMap decision? :=
            first ▸ List.filterMap_cons_some one
          rw [same, List.length_cons, List.count_cons, RatioTracker.verdicts_succ]
          refine ⟨congrArg _ ?_, last, tracks, ?_, ?_⟩
          · rw [← RatioTracker.verdicts_next, ← counter]
            exact row
          · rw [decisions, counter]
            split <;> omega
          · rw [downgraded, down]
            simp only [beq_true, decide_eq_true_eq]
            omega

theorem opensRoot_eq {id : Nat} {op : Operation} {r : Recorder} (known : s.recorder? id = some r) :
    opensRoot (.at step s (.enter id op)) =
      ((step s (.enter id op)).1.isDone && (!r.isBuilding || r.isAborted)) := by
  have answer : (step s (.enter id op)).1.isDone = (r.enter s.clock op).1.isDone := by
    rw [← (recorder?_enter known op).1]
    exact Outcome.isDone_map _ _
  rw [opensRoot_enter known, answer]
  cases opened : (r.enter s.clock op).1 with
  | crashed => rfl
  | done number => rw [Recorder.atRoot_enter (Prod.ext opened rfl)]

/-- A decision shows in the recorder of the root it is about. -/
theorem recorder?_decided {id : Nat} {op : Operation} {down : Bool}
    (decided : decision? (.at step s (.enter id op)) = some down) :
    ∃ r, s.recorder? id = some r ∧ (step s (.enter id op)).2.recorder? id = some
      (if down then downgraded (r.enter s.clock op).2 else (r.enter s.clock op).2) := by
  unfold decision? at decided
  split at decided
  · rename_i root
    cases decided
    cases known : s.recorder? id with
    | none =>
        rw [opensRoot_unknown known] at root
        cases root
    | some r =>
        rw [opensRoot_enter known, Bool.and_eq_true] at root
        exact ⟨r, rfl, (enter_root known root.1 root.2).2⟩
  · cases decided

/-- Of a run in which the settings ask for one percentage whenever a root opens. A root opens with a
frame where none was open, or where the trace before had grown too large, in whatever context. Of
any hundred roots in a row as many are downgraded as the percentage says; from a counter at a
multiple of a hundred on, the share is exact for any number of roots. The counters of the strategy
count just these, and no other call moves them. A downgraded root carries the hints. -/
theorem downgrade_share (tracked : s.board.tracker? endpointStrategy = some tracker)
    (bounded : percent ≤ 100)
    (undecided : ∀ call ∈ calls, call.Asks (· ≠ .decideRoot endpointStrategy))
    (held : ∀ m ∈ moments step s calls, opensRoot m = true → m.before.askedPercent = percent) :
    let history := moments step s calls
    let decided := history.filterMap decision?
    (∀ first, first + 100 ≤ decided.length →
      ((decided.drop first).take 100).count true = percent) ∧
    (tracker.decisions % 100 = 0 → decided.count true =
      decided.length / 100 * percent + min (decided.length % 100) percent) ∧
    (∃ last, (after step s calls).board.tracker? endpointStrategy = some last ∧
      last.decisions = tracker.decisions + (if percent = 0 then 0 else decided.length) ∧
      last.downgraded = tracker.downgraded + decided.count true) ∧
    ∀ m ∈ history,
      (∀ id op r, m.call = .enter id op → m.before.recorder? id = some r →
        opensRoot m = (m.answer.isDone && (!r.isBuilding || r.isAborted))) ∧
      (decision? m = none → m.after.board.tracker? endpointStrategy =
        m.before.board.tracker? endpointStrategy) ∧
      ∀ id op down, m.call = .enter id op → decision? m = some down →
        ∃ r, m.before.recorder? id = some r ∧ m.after.recorder? id = some
          (if down then downgraded (r.enter m.before.clock op).2
            else (r.enter m.before.clock op).2) := by
  have tracks := Switchboard.tracks_iff.mpr tracked
  obtain ⟨row, last, tracksLast, decisions, down⟩ := decided_after bounded tracks undecided held
  intro history decided
  refine ⟨fun first inside => ?_, fun multiple => ?_, ?_, fun m member => ?_⟩
  · have enough : 100 ≤ decided.length - first := by omega
    have window : (decided.drop first).take 100 =
        RatioTracker.verdicts percent (tracker.decisions + first) 100 := by
      rw [show decided = _ from row, RatioTracker.drop_verdicts, RatioTracker.take_verdicts enough]
    rw [window, RatioTracker.count_hundred bounded]
  · have counted := RatioTracker.count_of_multiple bounded multiple decided.length
    rwa [← show decided = _ from row] at counted
  · exact ⟨last, Switchboard.tracks_iff.mp tracksLast, decisions, down⟩
  · obtain ⟨now, tracksNow⟩ := tracked_moments tracks undecided m member
    have asked := undecided m.call (call_mem_of_mem_moments member)
    obtain ⟨s', call, rfl⟩ : ∃ s' call, m = .at step s' call := ⟨_, _, eq_at_of_mem_moments member⟩
    refine ⟨?_, fun none => ?_, ?_⟩
    · rintro id op r ⟨⟩ known
      exact opensRoot_eq known
    · have inner : opensRoot (.at step s' call) = false := by
        unfold decision? at none
        split at none
        · cases none
        · exact Bool.eq_false_iff.mpr ‹_›
      have kept : (step s' call).2.board.Tracks endpointStrategy now :=
        tracks_kept tracksNow asked inner
      exact (Switchboard.tracks_iff.mp kept).trans (Switchboard.tracks_iff.mp tracksNow).symm
    · rintro id op down ⟨⟩ decided
      exact recorder?_decided decided

/-- Two of a hundred traces are downgraded, and one frame is enough for a trace. -/
def sparing : Setup := { Setup.plain with config := { endpointRatio := 2, maxFrames := 1 } }

/-- A root in each of two contexts; then a frame too many in the first, which drops its trace, and
another root there. -/
def threeRoots : List Call :=
  [.newContext, .enter 1 { kind := "http", label := "a" },
    .probe 1 { className := "shop.Orders", methodName := "find" }, .newContext,
    .enter 2 { kind := "http", label := "b" },
    .settings fun board => (Switchboard.step board (.write "mode" (.text "quiet"))).2,
    .enter 1 { kind := "db", label := "query" }, .enter 1 { kind := "http", label := "c" }]

theorem three_roots_share :
    ∃ s tracker, build sparing = .done (.ok s) ∧ s.board.tracker? endpointStrategy = some tracker ∧
      tracker.decisions % 100 = 0 ∧
      (∀ call ∈ threeRoots, call.Asks (· ≠ .decideRoot endpointStrategy)) ∧
      (∀ m ∈ moments step s threeRoots, opensRoot m = true → m.before.askedPercent = 2) ∧
      ((moments step s threeRoots).filterMap decision?).length = 3 ∧
      ((moments step s threeRoots).filterMap decision?).count true = 2 := by
  have ran : ∃ s tracker, build sparing = .done (.ok s) ∧
      s.board.tracker? endpointStrategy = some tracker ∧ tracker.decisions % 100 = 0 ∧
      (∀ m ∈ moments step s threeRoots, opensRoot m = true → m.before.askedPercent = 2) ∧
      ((moments step s threeRoots).filterMap decision?).length = 3 :=
    ⟨_, .ofPercent 2, rfl, by decide +kernel, rfl, by decide +kernel, by decide +kernel⟩
  obtain ⟨s, tracker, built, tracked, multiple, held, three⟩ := ran
  have undecided : ∀ call ∈ threeRoots, call.Asks (· ≠ .decideRoot endpointStrategy) := by
    simp only [threeRoots, List.forall_mem_cons, Call.Asks]
    exact ⟨trivial, trivial, trivial, trivial, trivial,
      ⟨.write "mode" (.text "quiet"), by simp, fun _ => rfl⟩, trivial, trivial,
      List.forall_mem_nil _⟩
  have share := (downgrade_share tracked (by decide) undecided held).2.1 multiple
  rw [three] at share
  exact ⟨s, tracker, built, tracked, multiple, undecided, held, three, share⟩

end

end Service
end SpanCapture
