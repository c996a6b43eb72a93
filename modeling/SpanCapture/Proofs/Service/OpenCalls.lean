import SpanCapture.Proofs.Recorder.Openings
import SpanCapture.Proofs.Service.Recorders

/-! The owner of a context and its recorder. The owner closes what it opened, innermost first,
and does not see when a trace is dumped, unwound or dropped for its size. What is open in the
recorder is always an upper part of what the owner still has to close, and everything below
has been dropped. So an exit closes the frame of its own entering, or nothing. -/
namespace SpanCapture

/-- An entering whose exit is still to come, and whether its trace has been dropped since. -/
structure OpenCall where
  opening : Opening
  dropped : Bool
  deriving Repr, DecidableEq

namespace OpenCall

def live (opening : Opening) : OpenCall := ⟨opening, false⟩

def drop (call : OpenCall) : OpenCall := { call with dropped := true }

/-- The calls after one more entering: its parent is the innermost call that still counts. -/
def enter (number now : Nat) (calls : List OpenCall) : List OpenCall :=
  live ⟨number, (calls.find? (!·.dropped)).map (·.opening.id), now⟩ :: calls

/-- The frames open in a recorder are those of the innermost calls, and the other calls have
been dropped. -/
def Follow (calls : List OpenCall) (openings : List Opening) : Prop :=
  ∃ lost, calls = openings.map live ++ lost ∧ ∀ call ∈ lost, call.dropped

theorem follow_drop (calls : List OpenCall) : Follow (calls.map drop) [] := by
  refine ⟨calls.map drop, rfl, ?_⟩
  intro call member
  obtain ⟨_, _, rfl⟩ := List.mem_map.mp member
  rfl

theorem Follow.enter {calls : List OpenCall} {openings : List Opening} (h : Follow calls openings)
    (number now : Nat) : Follow (OpenCall.enter number now calls)
      (⟨number, openings.head?.map Opening.id, now⟩ :: openings) := by
  obtain ⟨lost, rfl, dropped⟩ := h
  refine ⟨lost, ?_, dropped⟩
  rw [OpenCall.enter]
  cases openings with
  | nil =>
      have none : lost.find? (!·.dropped) = none := by
        rw [List.find?_eq_none]
        intro call member
        simp [dropped call member]
      rw [List.map_nil, List.nil_append, none]
      rfl
  | cons opening rest => rfl

theorem Follow.tail {calls : List OpenCall} {openings : List Opening} {opening : Opening}
    (h : Follow calls (opening :: openings)) : Follow calls.tail openings := by
  obtain ⟨lost, rfl, dropped⟩ := h
  exact ⟨lost, rfl, dropped⟩

theorem Follow.tail_nil {calls : List OpenCall} (h : Follow calls []) : Follow calls.tail [] := by
  obtain ⟨lost, same, dropped⟩ := h
  have all : calls = lost := same
  subst all
  exact ⟨calls.tail, rfl, fun call member => dropped call (List.mem_of_mem_tail member)⟩

end OpenCall

namespace Service

/-- Writes down what a call means for the calls a context's owner still has to exit. -/
def noteCall (id : Nat) (calls : List OpenCall) (m : Moment Service Call (Outcome Answer)) :
    List OpenCall :=
  match m.before.recorder? id with
  | none => calls
  | some r =>
    match m.call, m.answer with
    | .enter target _, .done (.entered number) =>
      if target = id then
        OpenCall.enter number m.before.clock.now (if r.isAborted then calls.map .drop else calls)
      else calls
    | .exit target, .done (.exited _) => if target = id then calls.tail else calls
    | .dropContext target, _ => if target = id then calls.map .drop else calls
    | .dump target, _ => if target = id then calls.map .drop else calls
    | .sweep now held, _ => if m.before.unwinds now held id r then calls.map .drop else calls
    | _, _ => calls

/-- What the owner of a context still has to exit after a history, innermost first. -/
def openCalls (id : Nat) (history : List (Moment Service Call (Outcome Answer))) : List OpenCall :=
  history.foldl (noteCall id) []

def Answered (m : Moment Service Call (Outcome Answer)) : Prop := m.answer.isDone

instance : DecidablePred Answered := fun m => inferInstanceAs (Decidable (m.answer.isDone = true))

section
variable {s s' : Service} {id : Nat} {r r' : Recorder} {calls : List OpenCall} {call : Call}
  {answer : Answer}

theorem follow_enter {op : Operation} {number : Nat}
    (h : OpenCall.Follow calls r.openings) (done : r.enter s.clock op = (.done number, r')) :
    OpenCall.Follow (OpenCall.enter number s.clock.now (if r.isAborted then calls.map .drop else calls))
      r'.openings := by
  obtain ⟨rfl, opens⟩ := Recorder.enter_done done
  rw [Recorder.openings_opens opens]
  split
  · exact (OpenCall.follow_drop calls).enter _ _
  · exact h.enter _ _

/-- Calls that leave a context alone mean nothing for its owner. -/
theorem noteCall_other (elsewhere : call.target? ≠ some id)
    (awake : ∀ now held, call ≠ .sweep now held) (outcome : Outcome Answer) (s s' : Service)
    (calls : List OpenCall) : noteCall id calls ⟨s, call, outcome, s'⟩ = calls := by
  unfold noteCall
  dsimp only
  split
  · rfl
  · split
    · exact if_neg fun same => elsewhere (congrArg some same)
    · exact if_neg fun same => elsewhere (congrArg some same)
    · exact if_neg fun same => elsewhere (congrArg some same)
    · exact if_neg fun same => elsewhere (congrArg some same)
    · exact absurd rfl (awake _ _)
    · rfl

/-- Whatever a call does to the recorder, the owner's calls follow. -/
theorem follow_affected (h : OpenCall.Follow calls r.openings) (known : s.recorder? id = some r)
    (affected : Affects s id r call answer r') :
    OpenCall.Follow (noteCall id calls ⟨s, call, .done answer, s'⟩) r'.openings := by
  unfold noteCall
  rw [known]
  cases affected with
  | enter done =>
      dsimp only
      rw [if_pos rfl]
      exact follow_enter h done
  | @enterDowngraded op number entered done =>
      dsimp only
      rw [if_pos rfl]
      change OpenCall.Follow _ entered.openings
      exact follow_enter h done
  | exit done =>
      dsimp only
      rw [if_pos rfl]
      rcases Recorder.openings_exit done with ⟨rfl, none, same⟩ | ⟨info, completed, rfl, openings⟩
      · rw [none] at h
        rw [same, none]
        exact h.tail_nil
      · rw [openings] at h
        exact h.tail
  | discard frame =>
      rw [Recorder.openings_discard]
      exact h
  | dump =>
      dsimp only
      rw [if_pos rfl]
      exact OpenCall.follow_drop calls
  | setHint key value => exact h
  | setHintObject key object => exact h
  | setHintAtRoot key value =>
      have same : (r.setHintAtRoot key value).2.openings = r.openings := by
        unfold Recorder.setHintAtRoot
        split <;> rfl
      rw [same]
      exact h
  | change f =>
      rw [Recorder.openings_withOperation]
      exact h
  | act =>
      rw [Recorder.act_eq_withOperation, Recorder.openings_withOperation]
      exact h
  | sweep =>
      dsimp only
      split
      · exact OpenCall.follow_drop calls
      · exact h
  | other elsewhere awake =>
      have same := noteCall_other elsewhere awake (.done answer) s s' calls
      unfold noteCall at same
      rw [known] at same
      dsimp only at same ⊢
      rw [same]
      exact h

def openings (id : Nat) (s : Service) : List Opening :=
  match s.recorder? id with
  | some r => r.openings
  | none => []

theorem openings_known (known : s.recorder? id = some r) : s.openings id = r.openings := by
  rw [openings, known]

theorem openings_unknown (unknown : s.recorder? id = none) : s.openings id = [] := by
  rw [openings, unknown]

theorem noteCall_unknown (unknown : s.recorder? id = none) (call : Call) (outcome : Outcome Answer)
    (s' : Service) (calls : List OpenCall) : noteCall id calls ⟨s, call, outcome, s'⟩ = calls := by
  simp only [noteCall, unknown]

/-- One call keeps the owner's calls and the frames of the context together. -/
theorem follow_step (sound : s.Sound) (h : OpenCall.Follow calls (s.openings id)) (call : Call)
    (answered : (step s call).1.isDone) :
    OpenCall.Follow (noteCall id calls (.at step s call)) ((step s call).2.openings id) := by
  cases known : s.recorder? id with
  | none =>
      rw [openings_unknown known] at h
      rw [Moment.at, noteCall_unknown known]
      cases known' : (step s call).2.recorder? id with
      | none =>
          rw [openings_unknown known']
          exact h
      | some r' =>
          obtain ⟨-, frames, -⟩ := recorder?_step_unknown sound known known'
          rw [openings_known known', Recorder.openings, frames]
          exact h
  | some r =>
      rw [openings_known known] at h
      by_cases kept : call = .dropContext id
      · subst kept
        have gone : (step s (.dropContext id)).2.recorder? id = none := recorder?_dropContext id s
        rw [openings_unknown gone, Moment.at, noteCall, known]
        dsimp only
        rw [if_pos rfl]
        exact OpenCall.follow_drop calls
      · obtain ⟨answer, done⟩ := Outcome.isDone_iff.mp answered
        obtain ⟨r', known', affected⟩ := affects sound known done kept
        rw [openings_known known', Moment.at, done]
        exact follow_affected h known affected

/-- With nothing open an exit changes nothing. -/
theorem exit_nothing (unique : s.contexts.keys.Nodup) (idle : s.openings id = []) :
    s.exit id = (.done none, s) := by
  cases known : s.recorder? id with
  | none => exact exit_unknown known
  | some r =>
      rw [openings_known known] at idle
      have frames : r.openFrames = [] := List.map_eq_nil_iff.mp idle
      have same := setRecorder_self unique known
      simp only [exit, known, Recorder.exit_idle s.clock r frames]
      exact Prod.ext rfl same

/-- With a frame open an exit closes it and no other. -/
theorem exit_something {opening : Opening} {rest : List Opening}
    (busy : s.openings id = opening :: rest) (calm : (s.exit id).1.isDone) :
    ∃ info, (s.exit id).1 = .done (some info) ∧ info.opening = opening ∧
      s.openings id = opening :: (s.exit id).2.openings id := by
  cases known : s.recorder? id with
  | none =>
      rw [openings_unknown known] at busy
      cases busy
  | some r =>
      rw [openings_known known, openings_known (recorder?_exit known)]
      rw [openings_known known] at busy
      obtain ⟨left, closed, answer⟩ := exit_answer known calm
      rcases Recorder.openings_exit closed with ⟨-, none, -⟩ | ⟨info, completed, rfl, openings⟩
      · rw [none] at busy
        cases busy
      · have own : info.opening = opening := (List.cons.inj (openings.symm.trans busy)).1
        exact ⟨info, answer, own, own ▸ openings⟩

/-- After whatever calls on whatever contexts, with sweeps, dumps and traces dropped for their
size among them, an exit of a context closes the frame its owner entered last and has not
exited, and no other; or it gives nothing and changes nothing, if that frame's trace has been
dropped since or nothing is left to exit. -/
theorem exit_closes_own_frame {setup : Setup} {first s : Service} {id : Nat}
    {history : List (Moment Service Call (Outcome Answer))}
    (built : Service.build setup = .done (.ok first)) (run : Run step Answered first history s)
    (calm : (s.exit id).1.isDone) :
    match openCalls id history with
    | ⟨opening, false⟩ :: _ => ∃ info, (s.exit id).1 = .done (some info) ∧
        info.opening = opening ∧ s.openings id = opening :: (s.exit id).2.openings id
    | _ => s.exit id = (.done none, s) := by
  have kept : s.Sound ∧ OpenCall.Follow (openCalls id history) (s.openings id) := by
    refine run.book_invariant (R := fun calls s => s.Sound ∧ OpenCall.Follow calls (s.openings id))
      (noteCall id) [] ⟨sound_build built, ?_⟩ ?_
    · rw [openings_unknown (recorder?_build built id)]
      exact ⟨[], rfl, nofun⟩
    · exact fun calls s call h answered =>
        ⟨h.1.step call, follow_step h.1 h.2 call answered⟩
  obtain ⟨sound, lost, same, dropped⟩ := kept
  rw [same]
  cases busy : s.openings id with
  | cons opening rest =>
      obtain ⟨info, answer, own, inner⟩ := exit_something busy calm
      exact ⟨info, answer, own, busy ▸ inner⟩
  | nil =>
      have nothing := exit_nothing sound.table.unique busy
      cases lost with
      | nil => exact nothing
      | cons call rest =>
          obtain ⟨opening, flag⟩ := call
          have gone : flag = true := dropped ⟨opening, flag⟩ List.mem_cons_self
          subst gone
          exact nothing

/-- A trace of two frames that a sweep unwinds, and the root of another. -/
def sweptOver : List Call :=
  [.newContext, .enter 1 { kind := "http", label := "slow" }, .enter 1 { kind := "db", label := "query" },
    .wait (61 * nanosPerSecond), .sweep (61 * nanosPerSecond) [],
    .enter 1 { kind := "http", label := "next" }]

theorem exit_after_sweep :
    ∃ first, build Setup.plain = .done (.ok first) ∧
      (∀ m ∈ moments step first sweptOver, Answered m) ∧
      openCalls 1 (moments step first sweptOver) = [⟨⟨1, none, 61000000000⟩, false⟩,
        ⟨⟨2, some 1, 0⟩, true⟩, ⟨⟨1, none, 0⟩, true⟩] ∧
      ∃ info, ((after step first sweptOver).exit 1).1 = .done (some info) ∧
        info.opening = ⟨1, none, 61000000000⟩ := by
  have ran : ∃ first, build Setup.plain = .done (.ok first) ∧
      (∀ m ∈ moments step first sweptOver, Answered m) ∧
      openCalls 1 (moments step first sweptOver) = [⟨⟨1, none, 61000000000⟩, false⟩,
        ⟨⟨2, some 1, 0⟩, true⟩, ⟨⟨1, none, 0⟩, true⟩] ∧
      ((after step first sweptOver).exit 1).1.isDone :=
    ⟨_, rfl, by decide +kernel, by decide +kernel, by decide +kernel⟩
  obtain ⟨first, built, answered, calls, calm⟩ := ran
  refine ⟨first, built, answered, calls, ?_⟩
  have run := Run.of_moments answered
  generalize moments step first sweptOver = history at run calls
  generalize after step first sweptOver = s at run calm ⊢
  have closes := exit_closes_own_frame built run calm
  rw [calls] at closes
  obtain ⟨info, answer, own, -⟩ := closes
  exact ⟨info, answer, own⟩

end

end Service
end SpanCapture
