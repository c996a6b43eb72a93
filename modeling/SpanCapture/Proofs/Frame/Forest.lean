import SpanCapture.Proofs.Operation
import SpanCapture.Recorder.Discard
import SpanCapture.Recorder.Enter

/-! Forests of frames as lists. A visit is an entry with the numbers of the frames above it;
the visits of a forest, in the order the frames were entered, say all there is to say about
it. Marking, searching and pruning are read off on this list. The list of open frames is a
forest as well, innermost first, so its entries in order are those of the reversed list. -/
namespace SpanCapture

/-- An entry of a forest, and the numbers of the frames above it, innermost first. -/
structure Visit where
  entry : FrameEntry
  above : List Nat

namespace Frame

/-- Induction over a forest: its first tree is an entry with a forest below. -/
@[elab_as_elim]
theorem forest_induction {P : List Frame → Prop} (nil : P [])
    (cons : ∀ entry children rest, P children → P rest → P (.node entry children :: rest))
    (frames : List Frame) : P frames :=
  Frame.rec_1 (motive_1 := fun frame => P frame.children) (motive_2 := P)
    (fun _ _ below => below) nil
    (fun frame rest below after => by cases frame; exact cons _ _ _ below after) frames

mutual

/-- The visits of a tree below frames with the given numbers. -/
def visits (above : List Nat) : Frame → List Visit
  | .node entry children => ⟨entry, above⟩ :: visitsIn (entry.id :: above) children

def visitsIn (above : List Nat) : List Frame → List Visit
  | [] => []
  | frame :: rest => visits above frame ++ visitsIn above rest

end

def entriesIn (frames : List Frame) : List FrameEntry := (visitsIn [] frames).map Visit.entry

@[simp] theorem visitsIn_nil (above : List Nat) : visitsIn above [] = [] := rfl

@[simp] theorem visitsIn_cons (above : List Nat) (e : FrameEntry) (cs rest : List Frame) :
    visitsIn above (.node e cs :: rest) =
      ⟨e, above⟩ :: (visitsIn (e.id :: above) cs ++ visitsIn above rest) := rfl

theorem visitsIn_append (above : List Nat) (a b : List Frame) :
    visitsIn above (a ++ b) = visitsIn above a ++ visitsIn above b := by
  induction a with
  | nil => rfl
  | cons frame rest ih => simp only [List.cons_append, visitsIn, ih, List.append_assoc]

theorem map_entry_visitsIn (above : List Nat) (frames : List Frame) :
    (visitsIn above frames).map Visit.entry = entriesIn frames := by
  induction frames using forest_induction generalizing above with
  | nil => rfl
  | cons e cs rest below after =>
      rw [entriesIn, visitsIn_cons, visitsIn_cons, List.map_cons, List.map_cons, List.map_append,
        List.map_append, below, below, after]
      rfl

@[simp] theorem entriesIn_nil : entriesIn [] = [] := rfl

@[simp] theorem entriesIn_cons (e : FrameEntry) (cs rest : List Frame) :
    entriesIn (.node e cs :: rest) = e :: (entriesIn cs ++ entriesIn rest) := by
  rw [entriesIn, visitsIn_cons, List.map_cons, List.map_append, map_entry_visitsIn,
    map_entry_visitsIn]

@[simp] theorem entriesIn_append (a b : List Frame) :
    entriesIn (a ++ b) = entriesIn a ++ entriesIn b := by
  simp only [entriesIn, visitsIn_append, List.map_append]

/-- A walk lists the visits, with the number of frames above as the depth. -/
theorem walkAll_eq (above : List Nat) (frames : List Frame) :
    walkAll above.length frames = (visitsIn above frames).map fun v => (v.above.length, v.entry) := by
  induction frames using forest_induction generalizing above with
  | nil => rfl
  | cons e cs rest below after =>
      have inner := below (e.id :: above)
      rw [List.length_cons] at inner
      rw [walkAll, walk, inner, after, visitsIn_cons, List.map_cons, List.map_append]
      rfl

theorem walk_eq (frame : Frame) :
    frame.walk 0 = (visitsIn [] [frame]).map fun v => (v.above.length, v.entry) := by
  rw [← walkAll_eq [] [frame], walkAll, walkAll, List.append_nil]
  rfl

theorem entries_eq (frame : Frame) : frame.entries = entriesIn [frame] := by
  rw [entries, walk_eq, entriesIn, List.map_map]
  rfl

theorem sizeAll_eq (frames : List Frame) : sizeAll frames = (entriesIn frames).length := by
  rw [← length_walkAll ([] : List Nat).length, walkAll_eq, entriesIn, List.length_map,
    List.length_map]

theorem sizeAll_append (a b : List Frame) : sizeAll (a ++ b) = sizeAll a + sizeAll b := by
  rw [sizeAll_eq, sizeAll_eq, sizeAll_eq, entriesIn_append, List.length_append]

/-- What a frame lies below stays above all in it. -/
theorem above_of_mem_visitsIn {above : List Nat} {frames : List Frame} {v : Visit}
    (h : v ∈ visitsIn above frames) {id : Nat} (upper : id ∈ above) : id ∈ v.above := by
  induction frames using forest_induction generalizing above with
  | nil => cases h
  | cons e cs rest below after =>
      rcases List.mem_cons.mp h with rfl | h
      · exact upper
      · rcases List.mem_append.mp h with h | h
        · exact below h (List.mem_cons_of_mem _ upper)
        · exact after h upper

theorem anyException_eq (frames : List Frame) :
    anyException frames = (entriesIn frames).any fun e => e.op.hasException := by
  induction frames using forest_induction with
  | nil => rfl
  | cons e cs rest below after =>
      rw [anyException, containsException, below, after, entriesIn_cons, List.any_cons,
        List.any_append, Bool.or_assoc]

theorem containsException_eq (frame : Frame) :
    frame.containsException = (entriesIn [frame]).any fun e => e.op.hasException := by
  rw [← anyException_eq, anyException, anyException, Bool.or_false]

end Frame
end SpanCapture
