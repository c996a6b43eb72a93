import SpanCapture.Proofs.Frame.Stack

/-! The closed frames of a stack: all that lies below the open ones. Those among them that
recorded a failure are counted apart from their marks; taking out a tree without failures
loses none of them. -/
namespace SpanCapture
namespace Frame

def closedIn (frames : List Frame) : List FrameEntry :=
  frames.flatMap fun frame => entriesIn frame.children

@[simp] theorem closedIn_nil : closedIn [] = [] := rfl

@[simp] theorem closedIn_cons (e : FrameEntry) (cs outer : List Frame) :
    closedIn (.node e cs :: outer) = entriesIn cs ++ closedIn outer := rfl

theorem closedIn_unmarkedIn (frames : List Frame) :
    closedIn (unmarkedIn frames) = (closedIn frames).map FrameEntry.unmarked := by
  induction frames with
  | nil => rfl
  | cons frame outer ih =>
      obtain ⟨e, cs⟩ := frame
      rw [unmarkedIn_cons, closedIn_cons, closedIn_cons, entriesIn_unmarkedIn, ih, List.map_append]

theorem closedIn_withoutIn_sublist {id : Nat} {frames : List Frame}
    (kept : ∀ frame ∈ frames, frame.id ≠ id) :
    (closedIn (withoutIn id frames)).Sublist (closedIn frames) := by
  induction frames with
  | nil => exact .slnil
  | cons frame outer ih =>
      obtain ⟨e, cs⟩ := frame
      obtain ⟨top, rest⟩ := List.forall_mem_cons.mp kept
      have here : e.id ≠ id := top
      rw [withoutIn_cons_of_ne here, closedIn_cons, closedIn_cons]
      exact (entriesIn_withoutIn_sublist id cs).append (ih rest)

/-- The entries with a failure, apart from their marks. -/
def failures (entries : List FrameEntry) : List FrameEntry :=
  (entries.filter (·.op.hasException)).map FrameEntry.unmarked

@[simp] theorem failures_append (a b : List FrameEntry) :
    failures (a ++ b) = failures a ++ failures b := by
  rw [failures, List.filter_append, List.map_append]
  rfl

theorem mem_failures {entries : List FrameEntry} {x : FrameEntry} :
    x ∈ failures entries ↔ ∃ y ∈ entries, y.op.hasException ∧ y.unmarked = x := by
  rw [failures, List.mem_map]
  constructor
  · rintro ⟨y, member, same⟩
    obtain ⟨inside, failed⟩ := List.mem_filter.mp member
    exact ⟨y, inside, failed, same⟩
  · rintro ⟨y, inside, failed, same⟩
    exact ⟨y, List.mem_filter.mpr ⟨inside, failed⟩, same⟩

theorem exists_of_failures {a b : List FrameEntry} (h : (failures a).Perm (failures b))
    {x : FrameEntry} (member : x ∈ b) (failed : x.op.hasException) :
    ∃ y ∈ a, y.op.hasException ∧ y.unmarked = x.unmarked :=
  mem_failures.mp (h.mem_iff.mpr (mem_failures.mpr ⟨x, member, failed, rfl⟩))

theorem failures_congr {a b : List FrameEntry}
    (h : a.map FrameEntry.unmarked = b.map FrameEntry.unmarked) : failures a = failures b := by
  have marks (entries : List FrameEntry) : failures entries =
      (entries.map FrameEntry.unmarked).filter (·.op.hasException) := by
    rw [List.filter_map, failures]
    congr 2
    funext e
    exact (Operation.hasException_unmarked e.op).symm
  rw [marks, h, ← marks]

theorem failures_closedIn_congr {a b : List Frame} (h : unmarkedIn a = unmarkedIn b) :
    failures (closedIn a) = failures (closedIn b) := by
  apply failures_congr
  rw [← closedIn_unmarkedIn, h, closedIn_unmarkedIn]

theorem perm_failures {a b : List FrameEntry} (h : a.Perm b) : (failures a).Perm (failures b) :=
  (h.filter _).map _

theorem perm_failures_cons {a b : List FrameEntry} (e : FrameEntry)
    (h : (failures a).Perm (failures b)) : (failures (e :: a)).Perm (failures (e :: b)) := by
  have split (entries : List FrameEntry) : failures (e :: entries) = failures [e] ++ failures entries :=
    failures_append [e] entries
  rw [split a, split b]
  exact h.append_left _

/-- Closing the top frame below the next one adds it to the closed ones. -/
theorem closedIn_close (e e' parent : FrameEntry) (cs siblings outer : List Frame) :
    (closedIn (.node parent (siblings ++ [.node e' cs]) :: outer)).Perm
      (e' :: closedIn (.node e cs :: .node parent siblings :: outer)) := by
  simp only [closedIn_cons, entriesIn_append, entriesIn_cons, entriesIn_nil, List.append_nil,
    List.append_assoc, List.cons_append]
  exact List.perm_middle.trans (List.perm_append_comm_assoc _ _ _ |>.cons e')

/-- Dropping a tree in which nothing has some property drops nothing that has it. -/
theorem filter_withoutIn {p : FrameEntry → Bool} {id : Nat} {frames : List Frame} {target : Frame}
    (unique : (idsIn frames).Nodup) (found : findIn? id frames = some target)
    (clean : ∀ e ∈ entriesIn [target], p e = false) :
    (entriesIn (withoutIn id frames)).filter p = (entriesIn frames).filter p := by
  induction frames using forest_induction with
  | nil => cases found
  | cons e cs rest below after =>
      obtain ⟨⟨-, apart⟩, inners, others, disjoint⟩ := nodup_idsIn_cons.mp unique
      rw [findIn?, find?] at found
      by_cases here : e.id = id
      · subst here
        rw [if_pos rfl, Option.some_or, Option.some.injEq] at found
        subst found
        rw [entriesIn_cons, entriesIn_nil, List.append_nil] at clean
        have gone : (e :: entriesIn cs).filter p = [] := by
          rw [List.filter_eq_nil_iff]
          intro x member
          simp [clean x member]
        rw [withoutIn_cons_self, withoutIn_of_not_mem apart, entriesIn_cons, ← List.cons_append,
          List.filter_append, gone, List.nil_append]
      · rw [if_neg here] at found
        rw [withoutIn_cons_of_ne here, entriesIn_cons, entriesIn_cons, List.filter_cons,
          List.filter_cons, List.filter_append, List.filter_append]
        cases inner : findIn? id cs with
        | some deeper =>
            rw [inner, Option.some_or] at found
            have stays := disjoint id (mem_idsIn_of_find inner)
            rw [withoutIn_of_not_mem stays, below inners (inner.trans found)]
        | none =>
            rw [inner, Option.none_or] at found
            have stays := findIn_eq_none_iff.mp inner
            rw [withoutIn_of_not_mem stays, after others found]

theorem filter_closedIn_withoutIn {p : FrameEntry → Bool} {id : Nat} {frames : List Frame}
    {target : Frame} (unique : (idsIn frames).Nodup) (kept : ∀ frame ∈ frames, frame.id ≠ id)
    (found : findIn? id frames = some target) (clean : ∀ e ∈ entriesIn [target], p e = false) :
    (closedIn (withoutIn id frames)).filter p = (closedIn frames).filter p := by
  induction frames with
  | nil => rfl
  | cons frame outer ih =>
      obtain ⟨e, cs⟩ := frame
      obtain ⟨top, rest⟩ := List.forall_mem_cons.mp kept
      obtain ⟨-, inners, others, disjoint⟩ := nodup_idsIn_cons.mp unique
      have here : e.id ≠ id := top
      rw [findIn?, find?, if_neg here] at found
      rw [withoutIn_cons_of_ne here, closedIn_cons, closedIn_cons, List.filter_append,
        List.filter_append]
      cases inner : findIn? id cs with
      | some deeper =>
          rw [inner, Option.some_or] at found
          have stays := disjoint id (mem_idsIn_of_find inner)
          rw [withoutIn_of_not_mem stays, filter_withoutIn inners (inner.trans found) clean]
      | none =>
          rw [inner, Option.none_or] at found
          have stays := findIn_eq_none_iff.mp inner
          rw [withoutIn_of_not_mem stays, ih others rest found]

/-- A tree without a failure can be taken out of a stack without losing one. -/
theorem failures_withoutIn {id : Nat} {frames : List Frame} {target : Frame}
    (unique : (idsIn frames).Nodup) (kept : ∀ frame ∈ frames, frame.id ≠ id)
    (found : findIn? id frames = some target) (clean : target.containsException = false) :
    failures (closedIn (withoutIn id frames)) = failures (closedIn frames) := by
  rw [containsException_eq, List.any_eq_false] at clean
  have quiet : ∀ e ∈ entriesIn [target], e.op.hasException = false := by
    intro e member
    exact Bool.eq_false_iff.mpr (clean e member)
  rw [failures, filter_closedIn_withoutIn unique kept found quiet]
  rfl

end Frame
end SpanCapture
