import SpanCapture.Proofs.Frame.Forest

/-! Taking subtrees out of a forest. `withoutIn` drops every tree whose first frame has a
given number; on the list of visits it is a filter. Where numbers are unique, detaching and
pruning are `withoutIn`, and what goes is what a search for the number finds. -/
namespace SpanCapture

def Visit.outside (id : Nat) (v : Visit) : Bool := v.entry.id != id && !v.above.contains id

namespace Frame

mutual

/-- Drops every tree below a frame whose first frame has a number. -/
def without (id : Nat) : Frame → Frame
  | .node entry children => .node entry (withoutIn id children)

def withoutIn (id : Nat) : List Frame → List Frame
  | [] => []
  | frame :: rest =>
    if frame.id = id then withoutIn id rest else without id frame :: withoutIn id rest

end

def idsIn (frames : List Frame) : List Nat := (entriesIn frames).map FrameEntry.id

@[simp] theorem idsIn_nil : idsIn [] = [] := rfl

@[simp] theorem idsIn_cons (e : FrameEntry) (cs rest : List Frame) :
    idsIn (.node e cs :: rest) = e.id :: (idsIn cs ++ idsIn rest) := by
  simp only [idsIn, entriesIn_cons, List.map_cons, List.map_append]

@[simp] theorem idsIn_append (a b : List Frame) : idsIn (a ++ b) = idsIn a ++ idsIn b := by
  simp only [idsIn, entriesIn_append, List.map_append]

theorem withoutIn_cons_self {e : FrameEntry} (cs rest : List Frame) :
    withoutIn e.id (.node e cs :: rest) = withoutIn e.id rest := if_pos rfl

theorem withoutIn_cons_of_ne {id : Nat} {e : FrameEntry} (h : e.id ≠ id) (cs rest : List Frame) :
    withoutIn id (.node e cs :: rest) = .node e (withoutIn id cs) :: withoutIn id rest := if_neg h

theorem withoutIn_of_not_mem {id : Nat} {frames : List Frame} (h : id ∉ idsIn frames) :
    withoutIn id frames = frames := by
  induction frames using forest_induction with
  | nil => rfl
  | cons e cs rest below after =>
      simp only [idsIn_cons, List.mem_cons, List.mem_append, not_or] at h
      obtain ⟨here, inner, later⟩ := h
      rw [withoutIn_cons_of_ne (Ne.symm here), below inner, after later]

theorem visitsIn_withoutIn {id : Nat} {above : List Nat} (h : id ∉ above) (frames : List Frame) :
    visitsIn above (withoutIn id frames) = (visitsIn above frames).filter (Visit.outside id) := by
  induction frames using forest_induction generalizing above with
  | nil => rfl
  | cons e cs rest below after =>
      by_cases here : e.id = id
      · subst here
        have gone : (visitsIn (e.id :: above) cs).filter (Visit.outside e.id) = [] := by
          rw [List.filter_eq_nil_iff]
          intro v member
          have upper := above_of_mem_visitsIn member List.mem_cons_self
          simp [Visit.outside, upper]
        have dropped : Visit.outside e.id ⟨e, above⟩ = false := by simp [Visit.outside]
        rw [withoutIn_cons_self, after h, visitsIn_cons, List.filter_cons, dropped,
          List.filter_append, gone]
        rfl
      · have kept : Visit.outside id ⟨e, above⟩ = true := by simp [Visit.outside, here, h]
        have inner : id ∉ e.id :: above := by
          simp only [List.mem_cons, not_or]
          exact ⟨Ne.symm here, h⟩
        rw [withoutIn_cons_of_ne here, visitsIn_cons, visitsIn_cons, below inner, after h,
          List.filter_cons, kept, List.filter_append]
        rfl

theorem entriesIn_withoutIn_sublist (id : Nat) (frames : List Frame) :
    (entriesIn (withoutIn id frames)).Sublist (entriesIn frames) := by
  rw [entriesIn, visitsIn_withoutIn List.not_mem_nil]
  exact List.filter_sublist.map _

theorem not_mem_idsIn_withoutIn (id : Nat) (frames : List Frame) : id ∉ idsIn (withoutIn id frames) := by
  induction frames using forest_induction with
  | nil => exact List.not_mem_nil
  | cons e cs rest below after =>
      by_cases here : e.id = id
      · subst here
        rwa [withoutIn_cons_self]
      · rw [withoutIn_cons_of_ne here, idsIn_cons, List.mem_cons, List.mem_append, not_or, not_or]
        exact ⟨Ne.symm here, below, after⟩

/-- Detaching from a forest takes its first tree, or detaches from the rest. -/
theorem detach_cons_cases {id : Nat} {e : FrameEntry} {cs rest left : List Frame} {found : Frame}
    (h : detach id (.node e cs :: rest) = some (found, left)) :
    (e.id = id ∧ left = rest) ∨
      (e.id ≠ id ∧ ∃ after, detach id rest = some (found, after) ∧ left = .node e cs :: after) := by
  change (if e.id = id then _ else _) = _ at h
  split at h
  · rename_i here
    cases h
    exact .inl ⟨here, rfl⟩
  · rename_i here
    obtain ⟨⟨child, after⟩, inner, same⟩ := Option.map_eq_some_iff.mp h
    cases same
    exact .inr ⟨here, after, inner, rfl⟩

theorem mem_idsIn_of_detach {id : Nat} {frames left : List Frame} {found : Frame}
    (h : detach id frames = some (found, left)) : id ∈ idsIn frames := by
  induction frames using forest_induction generalizing left with
  | nil => cases h
  | cons e cs rest _ after =>
      rw [idsIn_cons]
      rcases detach_cons_cases h with ⟨rfl, -⟩ | ⟨-, _, later, -⟩
      · exact List.mem_cons_self
      · exact List.mem_cons_of_mem _ (List.mem_append_right _ (after later))

/-- Pruning a forest takes a child of its first frame, or prunes below that, or prunes the
rest. -/
theorem prune_cons_cases {parent id : Nat} {e : FrameEntry} {cs rest left : List Frame}
    {found : Frame} (h : pruneIn? parent id (.node e cs :: rest) = some (found, left)) :
    (∃ inner, (detach id cs = some (found, inner) ∨ pruneIn? parent id cs = some (found, inner)) ∧
        left = .node e inner :: rest) ∨
      (∃ after, pruneIn? parent id rest = some (found, after) ∧ left = .node e cs :: after) := by
  rw [pruneIn?] at h
  split at h
  · obtain ⟨⟨_, tree⟩, here, same⟩ := Option.map_eq_some_iff.mp h
    cases same
    rw [prune?] at here
    split at here
    · obtain ⟨⟨_, inner⟩, detached, same⟩ := Option.map_eq_some_iff.mp here
      cases same
      exact .inl ⟨inner, .inl detached, rfl⟩
    · obtain ⟨⟨_, inner⟩, pruned, same⟩ := Option.map_eq_some_iff.mp here
      cases same
      exact .inl ⟨inner, .inr pruned, rfl⟩
  · obtain ⟨⟨_, after⟩, pruned, same⟩ := Option.map_eq_some_iff.mp h
    cases same
    exact .inr ⟨after, pruned, rfl⟩

theorem mem_idsIn_of_prune {parent id : Nat} {frames left : List Frame} {found : Frame}
    (h : pruneIn? parent id frames = some (found, left)) : id ∈ idsIn frames := by
  induction frames using forest_induction generalizing left with
  | nil => cases h
  | cons e cs rest below after =>
      rw [idsIn_cons]
      rcases prune_cons_cases h with ⟨_, detached | pruned, -⟩ | ⟨_, pruned, -⟩
      · exact List.mem_cons_of_mem _ (List.mem_append_left _ (mem_idsIn_of_detach detached))
      · exact List.mem_cons_of_mem _ (List.mem_append_left _ (below pruned))
      · exact List.mem_cons_of_mem _ (List.mem_append_right _ (after pruned))

theorem sizeAll_detach {id : Nat} {frames left : List Frame} {found : Frame}
    (h : detach id frames = some (found, left)) : sizeAll frames = found.size + sizeAll left := by
  induction frames generalizing left with
  | nil => cases h
  | cons frame rest ih =>
      unfold detach at h
      split at h
      · cases h
        rfl
      · obtain ⟨⟨child, after⟩, later, same⟩ := Option.map_eq_some_iff.mp h
        cases same
        rw [sizeAll, sizeAll, ih later]
        omega

/-- Pruning takes out as many frames as the tree has that it takes out. -/
theorem sizeAll_prune {parent id : Nat} {frames left : List Frame} {found : Frame}
    (h : pruneIn? parent id frames = some (found, left)) :
    sizeAll frames = found.size + sizeAll left := by
  induction frames using forest_induction generalizing left with
  | nil => cases h
  | cons e cs rest below after =>
      rcases prune_cons_cases h with ⟨inner, gone, rfl⟩ | ⟨later, pruned, rfl⟩
      · have children : sizeAll cs = found.size + sizeAll inner := gone.elim sizeAll_detach below
        rw [sizeAll, sizeAll, size, size, children]
        omega
      · rw [sizeAll, sizeAll, after pruned]
        omega

/-- Unique numbers: those of the first frame, of what is below it and of the rest are
apart. -/
theorem nodup_idsIn_cons {e : FrameEntry} {cs rest : List Frame} :
    (idsIn (.node e cs :: rest)).Nodup ↔
      (e.id ∉ idsIn cs ∧ e.id ∉ idsIn rest) ∧ (idsIn cs).Nodup ∧ (idsIn rest).Nodup ∧
        ∀ id ∈ idsIn cs, id ∉ idsIn rest := by
  rw [idsIn_cons, List.nodup_cons, List.mem_append, not_or, List.nodup_append]
  have apart : (∀ a ∈ idsIn cs, ∀ b ∈ idsIn rest, a ≠ b) ↔ ∀ id ∈ idsIn cs, id ∉ idsIn rest :=
    ⟨fun h id left right => h id left id right rfl, fun h a left b right same => h a left (same ▸ right)⟩
  rw [apart]

theorem detach_eq_withoutIn {id : Nat} {frames left : List Frame} {found : Frame}
    (unique : (idsIn frames).Nodup) (h : detach id frames = some (found, left)) :
    left = withoutIn id frames := by
  induction frames using forest_induction generalizing left with
  | nil => cases h
  | cons e cs rest _ after =>
      obtain ⟨⟨-, apart⟩, -, others, disjoint⟩ := nodup_idsIn_cons.mp unique
      rcases detach_cons_cases h with ⟨rfl, rfl⟩ | ⟨here, _, later, rfl⟩
      · rw [withoutIn_cons_self, withoutIn_of_not_mem apart]
      · have inner : id ∉ idsIn cs := fun member => disjoint id member (mem_idsIn_of_detach later)
        rw [withoutIn_cons_of_ne here, withoutIn_of_not_mem inner, ← after others later]

theorem prune_eq_withoutIn {parent id : Nat} {frames left : List Frame} {found : Frame}
    (unique : (idsIn frames).Nodup) (h : pruneIn? parent id frames = some (found, left)) :
    left = withoutIn id frames := by
  induction frames using forest_induction generalizing left with
  | nil => cases h
  | cons e cs rest below after =>
      obtain ⟨⟨apartInner, apart⟩, inners, others, disjoint⟩ := nodup_idsIn_cons.mp unique
      rcases prune_cons_cases h with ⟨inner, gone, rfl⟩ | ⟨_, pruned, rfl⟩
      · have member : id ∈ idsIn cs := gone.elim mem_idsIn_of_detach mem_idsIn_of_prune
        have same : inner = withoutIn id cs := gone.elim (detach_eq_withoutIn inners) (below inners)
        have here : e.id ≠ id := fun same => apartInner (same ▸ member)
        rw [withoutIn_cons_of_ne here, ← same, withoutIn_of_not_mem (disjoint id member)]
      · have member := mem_idsIn_of_prune pruned
        have here : e.id ≠ id := fun same => apart (same ▸ member)
        have inner : id ∉ idsIn cs := fun found => disjoint id found member
        rw [withoutIn_cons_of_ne here, withoutIn_of_not_mem inner, ← after others pruned]

theorem findIn_eq_none_iff {id : Nat} {frames : List Frame} :
    findIn? id frames = none ↔ id ∉ idsIn frames := by
  induction frames using forest_induction with
  | nil => exact ⟨fun _ => List.not_mem_nil, fun _ => rfl⟩
  | cons e cs rest below after =>
      rw [findIn?, find?, Option.or_eq_none_iff, idsIn_cons, List.mem_cons, List.mem_append, not_or,
        not_or, after]
      by_cases here : e.id = id
      · simp [here]
      · rw [if_neg here, below]
        simp [Ne.symm here]

theorem isSome_find_iff {id : Nat} {e : FrameEntry} {cs : List Frame} :
    (find? id (.node e cs)).isSome = true ↔ e.id = id ∨ id ∈ idsIn cs := by
  rw [find?]
  split
  · rename_i here
    exact iff_of_true rfl (.inl here)
  · rename_i here
    rw [Option.isSome_iff_ne_none, ne_eq, findIn_eq_none_iff, Decidable.not_not, or_iff_right here]

/-- Pruning finds the parent. -/
theorem parent_mem_of_prune {parent id : Nat} {frames left : List Frame} {found : Frame}
    (h : pruneIn? parent id frames = some (found, left)) : parent ∈ idsIn frames := by
  induction frames generalizing left with
  | nil => cases h
  | cons frame rest ih =>
      obtain ⟨e, cs⟩ := frame
      rw [idsIn_cons]
      rw [pruneIn?] at h
      split at h
      · rename_i inside
        rcases isSome_find_iff.mp inside with rfl | below
        · exact List.mem_cons_self
        · exact List.mem_cons_of_mem _ (List.mem_append_left _ below)
      · obtain ⟨⟨_, after⟩, later, same⟩ := Option.map_eq_some_iff.mp h
        cases same
        exact List.mem_cons_of_mem _ (List.mem_append_right _ (ih later))

theorem mem_idsIn_of_find {id : Nat} {frames : List Frame} {target : Frame}
    (h : findIn? id frames = some target) : id ∈ idsIn frames := by
  refine Decidable.byContradiction fun absent => ?_
  rw [findIn_eq_none_iff.mpr absent] at h
  cases h

end Frame
end SpanCapture
