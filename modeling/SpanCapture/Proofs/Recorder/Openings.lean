import SpanCapture.Proofs.Recorder.Calls

/-! The openings of the frames on the stack: who they are, under whom and since when. Only
entering, leaving and dropping a trace change them. -/
namespace SpanCapture

/-- What is known of a frame from the moment it is entered. -/
structure Opening where
  id : Nat
  parent : Option Nat
  start : Nat
  deriving Repr, DecidableEq

def FrameEntry.opening (e : FrameEntry) : Opening := ⟨e.id, e.parent, e.span.start⟩

namespace Recorder

def openings (r : Recorder) : List Opening := r.openFrames.map fun frame => frame.entry.opening

section
variable {clock : Clock} {op : Operation} {r r' : Recorder}

theorem openings_unmarked {a b : List Frame} (h : Frame.unmarkedIn a = Frame.unmarkedIn b) :
    (a.map fun frame => frame.entry.opening) = b.map fun frame => frame.entry.opening := by
  have strip (frames : List Frame) : (frames.map fun frame => frame.entry.opening) =
      (Frame.unmarkedIn frames).map fun frame => frame.entry.opening := by
    rw [Frame.unmarkedIn_eq_map, List.map_map]
    refine List.map_congr_left fun frame _ => ?_
    obtain ⟨e, cs⟩ := frame
    rfl
  rw [strip, h, ← strip]

theorem openings_opens (opens : Opens clock op r r') :
    r'.openings = ⟨r.lastId + 1, r.openings.head?.map Opening.id, clock.now⟩ :: r.openings := by
  obtain ⟨e, outer, frames, entry, others⟩ := opens.frames
  have number : e.id = r.lastId + 1 := congrArg FrameEntry.id entry
  have start : e.span.start = clock.now :=
    congrArg Interval.start (congrArg FrameEntry.span entry)
  have parent : e.parent = r.openings.head?.map Opening.id := by
    have link : e.parent = r.top?.map Frame.id := congrArg FrameEntry.parent entry
    rw [link, openings, List.head?_map, Option.map_map]
    rfl
  rw [openings, frames, List.map_cons, openings_unmarked others]
  refine List.cons_eq_cons.mpr ⟨?_, rfl⟩
  change (⟨e.id, e.parent, e.span.start⟩ : Opening) = _
  rw [number, parent, start]

/-- An answered entering opens a frame on what is open, or on nothing after a trace has grown
too large. -/
theorem enter_done {number : Nat} (done : r.enter clock op = (.done number, r')) :
    let base := if r.isAborted then r.resetAborted else r
    number = base.lastId + 1 ∧ Opens clock op base r' := by
  intro base
  change base.enterFresh clock op = _ at done
  rcases enterFresh_cases clock op base with ⟨message, crashed⟩ | ⟨opened, entered, opens⟩
  · rw [crashed] at done
    cases done
  · rw [entered] at done
    cases done
    exact ⟨rfl, opens⟩

theorem openings_withOperation (f : Operation → Operation) (r : Recorder) :
    (r.withOperation f).openings = r.openings := by
  have changed := changes f r
  generalize r.withOperation f = r' at changed
  cases changed with
  | idle => rfl
  | top frames =>
      rw [openings, openings, frames]
      rfl

/-- Taking a closed frame out changes no open one. -/
theorem entry_pruned {parent id : Nat} {frames left : List Frame} {found : Frame}
    (pruned : Frame.pruneIn? parent id frames = some (found, left)) :
    left.map Frame.entry = frames.map Frame.entry := by
  induction frames generalizing left with
  | nil => cases pruned
  | cons frame outer ih =>
      obtain ⟨e, cs⟩ := frame
      rcases Frame.prune_cons_cases pruned with ⟨_, _, rfl⟩ | ⟨_, later, rfl⟩
      · rfl
      · exact congrArg (e :: ·) (ih later)

theorem openings_discard (id : Nat) (r : Recorder) : (r.discard id).2.openings = r.openings := by
  have discarded := discards id r
  generalize r.discard id = result at discarded
  cases discarded with
  | refused => rfl
  | root => rfl
  | closed isRoot notRoot closed found clean pruned =>
      have same := congrArg (List.map FrameEntry.opening) (entry_pruned pruned)
      rw [List.map_map, List.map_map] at same
      exact same

/-- Leaving closes the frame on top, or does nothing when none is open. -/
theorem openings_exit {left : Option Exited} (done : (r.exit clock).2.2 = .done left) :
    (left = none ∧ r.openings = [] ∧ r.exit clock = (clock, r, .done none)) ∨
      ∃ info completed, left = some ⟨info, completed⟩ ∧
        r.openings = info.opening :: (r.exit clock).2.1.openings := by
  have exited := exits clock r
  generalize r.exit clock = result at exited done
  cases exited with
  | idle frames =>
      cases done
      exact .inl ⟨rfl, by rw [openings, frames]; rfl, rfl⟩
  | crash => cases done
  | root frames =>
      cases done
      exact .inr ⟨_, _, rfl, by rw [openings, frames]; rfl⟩
  | inner frames =>
      cases done
      exact .inr ⟨_, _, rfl, by rw [openings, frames]; rfl⟩

end

end Recorder
end SpanCapture
