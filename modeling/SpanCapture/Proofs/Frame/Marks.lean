import SpanCapture.Proofs.Frame.Pruning

/-! Endpoint marks on a forest. The mark is the one thing that changes on a frame after it is
closed. Two forests that agree without marks have the same shape, the same numbers and the
same failures. -/
namespace SpanCapture

def FrameEntry.unmarked (e : FrameEntry) : FrameEntry := { e with op := e.op.unmarked }

@[simp] theorem FrameEntry.id_unmarked (e : FrameEntry) : e.unmarked.id = e.id := rfl

/-- An entry after a change of the operation of the entry with a number. -/
def FrameEntry.adjusted (id : Nat) (f : Operation → Operation) (e : FrameEntry) : FrameEntry :=
  if e.id = id then { e with op := f e.op } else e

namespace Frame

mutual

def unmarked : Frame → Frame
  | .node entry children => .node entry.unmarked (unmarkedIn children)

def unmarkedIn : List Frame → List Frame
  | [] => []
  | frame :: rest => unmarked frame :: unmarkedIn rest

end

@[simp] theorem unmarkedIn_cons (e : FrameEntry) (cs rest : List Frame) :
    unmarkedIn (.node e cs :: rest) = .node e.unmarked (unmarkedIn cs) :: unmarkedIn rest := rfl

theorem unmarkedIn_eq_map (frames : List Frame) : unmarkedIn frames = frames.map unmarked := by
  induction frames with
  | nil => rfl
  | cons frame rest ih => rw [unmarkedIn, ih, List.map_cons]

theorem visitsIn_unmarkedIn (above : List Nat) (frames : List Frame) :
    visitsIn above (unmarkedIn frames) =
      (visitsIn above frames).map fun v => ⟨v.entry.unmarked, v.above⟩ := by
  induction frames using forest_induction generalizing above with
  | nil => rfl
  | cons e cs rest below after =>
      rw [unmarkedIn_cons, visitsIn_cons, visitsIn_cons, FrameEntry.id_unmarked, below, after,
        List.map_cons, List.map_append]

theorem entriesIn_unmarkedIn (frames : List Frame) :
    entriesIn (unmarkedIn frames) = (entriesIn frames).map FrameEntry.unmarked := by
  rw [entriesIn, visitsIn_unmarkedIn, entriesIn, List.map_map, List.map_map]
  rfl

theorem idsIn_unmarkedIn (frames : List Frame) : idsIn (unmarkedIn frames) = idsIn frames := by
  rw [idsIn, entriesIn_unmarkedIn, List.map_map]
  rfl

/-- A change that leaves all but the mark of an operation leaves all but one mark of a
forest. -/
theorem unmarkedIn_adjustIn {f : Operation → Operation} (same : ∀ op, (f op).unmarked = op.unmarked)
    (id : Nat) (frames : List Frame) : unmarkedIn (adjustIn id f frames).1 = unmarkedIn frames := by
  induction frames using forest_induction with
  | nil => rfl
  | cons e cs rest below after =>
      have tree : unmarked (adjust id f (.node e cs)).1 = unmarked (.node e cs) := by
        rw [adjust]
        split
        · exact congrArg (Frame.node · (unmarkedIn cs)) (by simp only [FrameEntry.unmarked, same])
        · exact congrArg (Frame.node e.unmarked) below
      rw [adjustIn]
      split
      · rename_i frame found
        rw [found] at tree
        exact congrArg (· :: unmarkedIn rest) tree
      · rename_i frame found
        rw [found] at tree
        exact List.cons_eq_cons.mpr ⟨tree, after⟩

theorem map_adjusted_of_not_mem {id : Nat} {f : Operation → Operation} {frames : List Frame}
    (absent : id ∉ idsIn frames) :
    (entriesIn frames).map (FrameEntry.adjusted id f) = entriesIn frames := by
  have same : ∀ e ∈ entriesIn frames, e.adjusted id f = e := by
    intro e member
    refine if_neg ?_
    rintro rfl
    exact absent (List.mem_map_of_mem member)
  rw [List.map_congr_left same, List.map_id']

/-- Where numbers are unique, a change by number is a change of the one entry with the number. -/
theorem entriesIn_adjustIn {id : Nat} {f : Operation → Operation} {frames : List Frame}
    (unique : (idsIn frames).Nodup) :
    entriesIn (adjustIn id f frames).1 = (entriesIn frames).map (FrameEntry.adjusted id f) ∧
      ((adjustIn id f frames).2 = true ↔ id ∈ idsIn frames) := by
  induction frames using forest_induction with
  | nil => exact ⟨rfl, by simp [adjustIn]⟩
  | cons e cs rest below after =>
      obtain ⟨⟨apartInner, apart⟩, inners, others, disjoint⟩ := nodup_idsIn_cons.mp unique
      obtain ⟨inner, foundInner⟩ := below inners
      obtain ⟨later, foundLater⟩ := after others
      rw [entriesIn_cons, List.map_cons, List.map_append]
      unfold adjustIn adjust
      by_cases here : e.id = id
      · subst here
        rw [if_pos rfl, map_adjusted_of_not_mem apartInner, map_adjusted_of_not_mem apart]
        simp [FrameEntry.adjusted]
      · have same : e.adjusted id f = e := if_neg here
        rw [if_neg here, same]
        cases found : (adjustIn id f cs).2 with
        | true =>
            have member := foundInner.mp found
            simp [found, inner, member, map_adjusted_of_not_mem (disjoint id member)]
        | false =>
            have absent : id ∉ idsIn cs := fun member => by
              rw [foundInner.mpr member] at found
              cases found
            simp [found, inner, later, foundLater, absent, Ne.symm here]

theorem ids_eq_of_unmarkedIn_eq {a b : List Frame} (h : unmarkedIn a = unmarkedIn b) :
    idsIn a = idsIn b := by
  rw [← idsIn_unmarkedIn, h, idsIn_unmarkedIn]

theorem sizeAll_eq_of_unmarkedIn_eq {a b : List Frame} (h : unmarkedIn a = unmarkedIn b) :
    sizeAll a = sizeAll b := by
  have lengths := congrArg List.length (ids_eq_of_unmarkedIn_eq h)
  rwa [idsIn, idsIn, List.length_map, List.length_map, ← sizeAll_eq, ← sizeAll_eq] at lengths

end Frame
end SpanCapture
