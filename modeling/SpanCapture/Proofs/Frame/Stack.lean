import SpanCapture.Proofs.Frame.Marks

/-! The open frames as a stack, innermost first. Each holds the frames closed while it was on
top. Reading the stack from the outermost frame on gives all its visits in the order the
frames were entered; closing the top frame below the next one does not change this list. -/
namespace SpanCapture
namespace Frame

def openVisits : List Frame → List Visit
  | [] => []
  | frame :: outer => openVisits outer ++ visits (outer.map id) frame

@[simp] theorem openVisits_nil : openVisits [] = [] := rfl

theorem openVisits_cons (frame : Frame) (outer : List Frame) :
    openVisits (frame :: outer) = openVisits outer ++ visits (outer.map id) frame := rfl

theorem visits_node (above : List Nat) (e : FrameEntry) (cs : List Frame) :
    visits above (.node e cs) = ⟨e, above⟩ :: visitsIn (e.id :: above) cs := rfl

theorem visitsIn_singleton (above : List Nat) (frame : Frame) :
    visitsIn above [frame] = visits above frame := List.append_nil _

/-- A frame closed below the top of a stack counts as if it were still open on it. -/
theorem openVisits_attach (parent : FrameEntry) (siblings outer : List Frame) (closed : Frame) :
    openVisits (.node parent (siblings ++ [closed]) :: outer) =
      openVisits (.node parent siblings :: outer) ++ visits (parent.id :: outer.map id) closed := by
  rw [openVisits_cons, openVisits_cons, visits_node, visits_node, visitsIn_append,
    visitsIn_singleton, List.append_assoc, List.cons_append]

theorem map_entry_openVisits (frames : List Frame) :
    (openVisits frames).map Visit.entry = entriesIn frames.reverse := by
  induction frames with
  | nil => rfl
  | cons frame outer ih =>
      rw [openVisits_cons, List.map_append, ih, List.reverse_cons, entriesIn_append,
        ← visitsIn_singleton, map_entry_visitsIn]

theorem perm_entriesIn_reverse (frames : List Frame) :
    (entriesIn frames.reverse).Perm (entriesIn frames) := by
  induction frames with
  | nil => exact .refl _
  | cons frame outer ih =>
      have split : entriesIn (frame :: outer) = entriesIn [frame] ++ entriesIn outer :=
        entriesIn_append [frame] outer
      rw [List.reverse_cons, entriesIn_append, split]
      exact List.perm_append_comm.trans (ih.append_left _)

theorem mem_entriesIn_reverse {frames : List Frame} {e : FrameEntry} :
    e ∈ entriesIn frames.reverse ↔ e ∈ entriesIn frames := (perm_entriesIn_reverse frames).mem_iff

theorem mem_idsIn_reverse {frames : List Frame} {id : Nat} :
    id ∈ idsIn frames.reverse ↔ id ∈ idsIn frames :=
  ((perm_entriesIn_reverse frames).map FrameEntry.id).mem_iff

theorem nodup_idsIn_reverse {frames : List Frame} :
    (idsIn frames.reverse).Nodup ↔ (idsIn frames).Nodup :=
  ((perm_entriesIn_reverse frames).map FrameEntry.id).nodup_iff

theorem map_id_unmarkedIn (frames : List Frame) : (unmarkedIn frames).map id = frames.map id := by
  induction frames with
  | nil => rfl
  | cons frame rest ih =>
      obtain ⟨e, cs⟩ := frame
      exact List.cons_eq_cons.mpr ⟨rfl, ih⟩

theorem openVisits_unmarkedIn (frames : List Frame) :
    openVisits (unmarkedIn frames) =
      (openVisits frames).map fun v => ⟨v.entry.unmarked, v.above⟩ := by
  induction frames with
  | nil => rfl
  | cons frame outer ih =>
      have top : visits (outer.map id) (unmarked frame) =
          (visits (outer.map id) frame).map fun v => ⟨v.entry.unmarked, v.above⟩ := by
        rw [← visitsIn_singleton, ← visitsIn_singleton, ← visitsIn_unmarkedIn]
        rfl
      rw [unmarkedIn, openVisits_cons, openVisits_cons, map_id_unmarkedIn, ih, top, List.map_append]

theorem withoutIn_open_cons {id : Nat} {frame : Frame} (stays : frame.id ≠ id)
    (outer : List Frame) : withoutIn id (frame :: outer) = without id frame :: withoutIn id outer := by
  obtain ⟨e, cs⟩ := frame
  exact withoutIn_cons_of_ne stays cs outer

theorem map_id_withoutIn {id : Nat} {frames : List Frame} (kept : ∀ frame ∈ frames, frame.id ≠ id) :
    (withoutIn id frames).map Frame.id = frames.map Frame.id := by
  induction frames with
  | nil => rfl
  | cons frame outer ih =>
      obtain ⟨top, rest⟩ := List.forall_mem_cons.mp kept
      obtain ⟨e, cs⟩ := frame
      rw [withoutIn_open_cons top, List.map_cons, List.map_cons, ih rest]
      rfl

/-- Dropping closed frames from a stack drops their visits and no others. -/
theorem openVisits_withoutIn {id : Nat} {frames : List Frame}
    (kept : ∀ frame ∈ frames, frame.id ≠ id) :
    openVisits (withoutIn id frames) = (openVisits frames).filter (Visit.outside id) := by
  induction frames with
  | nil => rfl
  | cons frame outer ih =>
      obtain ⟨top, rest⟩ := List.forall_mem_cons.mp kept
      have above : id ∉ outer.map Frame.id := by
        intro member
        obtain ⟨frame, inside, same⟩ := List.mem_map.mp member
        exact rest frame inside same
      have tree : visits (outer.map Frame.id) (without id frame) =
          (visits (outer.map Frame.id) frame).filter (Visit.outside id) := by
        rw [← visitsIn_singleton, ← visitsIn_singleton, ← visitsIn_withoutIn above,
          withoutIn_open_cons top]
        rfl
      rw [withoutIn_open_cons top, openVisits_cons, openVisits_cons, map_id_withoutIn rest, ih rest,
        tree, List.filter_append]

end Frame
end SpanCapture
