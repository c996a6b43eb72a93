import SpanCapture.Proofs.Endpoint.FirstBest
import SpanCapture.Proofs.Recorder.Openings

/-! All that an answered entering does: what it counts, which candidate the analyzers locate for
the new frame, and what that means for the endpoint and its mark. -/
namespace SpanCapture
namespace Recorder

/-- What an entering starts from: a trace that has grown too large is dropped first. -/
def ready (r : Recorder) : Recorder := if r.isAborted then r.resetAborted else r

/-- A trace that goes on is not dropped. -/
theorem ready_of_building {r : Recorder} (building : r.ready.isBuilding) : r.ready = r := by
  unfold ready at building ⊢
  split at building
  · cases building
  · rename_i sound
    rw [if_neg sound]

/-- What becomes of the endpoint when a candidate is considered, and of the entry of its frame. -/
inductive Considers (candidate : Option Endpoint) (e : FrameEntry) (r : Recorder) :
    FrameEntry × Recorder → Prop
  | kept : Endpoint.prefer r.endpoint candidate = r.endpoint → Considers candidate e r (e, r)
  | moved {found : Endpoint} : candidate = some found →
      Endpoint.prefer r.endpoint candidate = some found →
      Considers candidate e r
        ({ e with op := e.op.markEndpoint true }, { r.unmark with endpoint := some found })

theorem considers (candidate : Option Endpoint) (e : FrameEntry) (r : Recorder) :
    Considers candidate e r (r.consider candidate e) := by
  unfold consider
  split
  · exact .kept rfl
  · rename_i found
    split
    · rename_i better
      exact .moved rfl (if_pos better)
    · rename_i worse
      exact .kept (if_neg worse)

/-- Taking the mark away changes open frames only. -/
theorem unmark_eq (r : Recorder) : r.unmark = { r with openFrames := r.unmark.openFrames } := by
  unfold unmark
  split <;> rfl

theorem openFrames_unmark_countEntry (clock : Clock) (r : Recorder) :
    (r.countEntry clock).unmark.openFrames = r.unmark.openFrames := by
  cases marked : r.endpoint <;> simp only [unmark, countEntry, marked, adjust]

theorem push_eq (e : FrameEntry) (r : Recorder) :
    r.push e = { r with openFrames := .node e [] :: r.openFrames, hints := (r.push e).hints } := by
  unfold push
  dsimp only
  split <;> rfl

/-- How the open frames carry the mark after an entering: as before, or it has moved from the
frame of the endpoint so far to the new one. -/
inductive Remarks (clock : Clock) (op : Operation) (candidate : Option Endpoint)
    (r r' : Recorder) : Prop
  | kept : r'.endpoint = r.endpoint →
      r'.openFrames = .node (.opened (r.lastId + 1) (r.top?.map Frame.id) op clock.now) [] ::
        r.openFrames → Remarks clock op candidate r r'
  | moved {found : Endpoint} : candidate = some found → r'.endpoint = some found →
      r'.openFrames = .node (.opened (r.lastId + 1) (r.top?.map Frame.id)
        (op.markEndpoint true) clock.now) [] :: r.unmark.openFrames →
      Remarks clock op candidate r r'

/-- An answered entering, with the candidate located for its frame. -/
structure Enters (clock : Clock) (op : Operation) (candidate : Option Endpoint)
    (r r' : Recorder) : Prop extends Opens clock op r r' where
  located : r.analyzers.locate op (r.lastId + 1) (r.depth + 1) r.openKinds = .done candidate
  endpoint : r'.endpoint = Endpoint.prefer r.endpoint candidate
  marks : Remarks clock op candidate r r'
  depth : r'.depth = r.depth + 1
  frameCount : r'.frameCount = r.frameCount + 1
  start : r'.start = if r.openFrames.isEmpty then some clock.instant else r.start
  analyzers : r'.analyzers = r.analyzers

section
variable {clock : Clock} {op : Operation} {number : Nat} {r r' : Recorder}

theorem enterFresh_enters (done : r.enterFresh clock op = (.done number, r')) :
    number = r.lastId + 1 ∧ ∃ candidate, Enters clock op candidate r r' := by
  have opens : number = r.lastId + 1 ∧ Opens clock op r r' := by
    rcases enterFresh_cases clock op r with ⟨message, crashed⟩ | ⟨opened, entered, opens⟩
    · rw [crashed] at done
      cases done
    · rw [entered] at done
      cases done
      exact ⟨rfl, opens⟩
  refine ⟨opens.1, ?_⟩
  unfold enterFresh at done
  dsimp only at done
  split at done
  · cases done
  · rename_i candidate located
    have left := congrArg Prod.snd done
    dsimp only at left
    have considered := considers candidate
      (.opened (r.countEntry clock).lastId (r.top?.map Frame.id) op clock.now) (r.countEntry clock)
    generalize (r.countEntry clock).consider candidate _ = result at considered left
    cases considered with
    | kept same =>
        rw [push_eq] at left
        subst left
        exact ⟨candidate, opens.2, located, same.symm, .kept rfl rfl, rfl, rfl, rfl, rfl⟩
    | moved isFound better =>
        rw [push_eq, unmark_eq, openFrames_unmark_countEntry] at left
        subst left
        exact ⟨candidate, opens.2, located, better.symm, .moved isFound rfl rfl, rfl, rfl, rfl, rfl⟩

theorem enter_enters (done : r.enter clock op = (.done number, r')) :
    number = r.ready.lastId + 1 ∧ ∃ candidate, Enters clock op candidate r.ready r' :=
  enterFresh_enters done

/-- An entering that crashes in an analyzer has counted the frame and nothing else. -/
theorem enter_crashed {message : String} (crashed : (r.enter clock op).1 = .crashed message) :
    (r.enter clock op).2 = r.ready.countEntry clock := by
  change (r.ready.enterFresh clock op).1 = _ at crashed
  change (r.ready.enterFresh clock op).2 = _
  rcases enterFresh_cases clock op r.ready with ⟨_, counted⟩ | ⟨opened, entered, -⟩
  · rw [counted]
  · rw [entered] at crashed
    cases crashed

end

end Recorder
end SpanCapture
