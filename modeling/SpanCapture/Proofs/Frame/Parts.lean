import SpanCapture.Proofs.Frame.Closed
import SpanCapture.Proofs.Frame.Timeline

/-! The parts of a forest: its trees and all trees below them. Where numbers are unique, a search
for a number finds the part that has it; where links are right as well, pruning by the link and the
number of a part takes out just this part. In the list of entries a part is a block, and without
the part the list is what stands before the block and what stands after it. -/
namespace SpanCapture
namespace Frame

theorem mem_partsIn_cons {e : FrameEntry} {cs rest : List Frame} {target : Frame} :
    target ∈ partsIn (.node e cs :: rest) ↔
      target = .node e cs ∨ target ∈ partsIn cs ∨ target ∈ partsIn rest := by
  rw [partsIn, parts, List.mem_append, List.mem_cons, or_assoc]

theorem mem_partsIn_append {a b : List Frame} {target : Frame} :
    target ∈ partsIn (a ++ b) ↔ target ∈ partsIn a ∨ target ∈ partsIn b := by
  induction a with
  | nil => simp [partsIn]
  | cons frame rest ih => simp only [List.cons_append, partsIn, List.mem_append, ih, or_assoc]

theorem mem_partsIn_of_mem {frames : List Frame} {frame : Frame} (member : frame ∈ frames) :
    frame ∈ partsIn frames := by
  induction frames with
  | nil => cases member
  | cons first rest ih =>
      obtain ⟨e, cs⟩ := first
      rcases List.mem_cons.mp member with rfl | later
      · exact mem_partsIn_cons.mpr (.inl rfl)
      · exact mem_partsIn_cons.mpr (.inr (.inr (ih later)))

theorem id_mem_idsIn {frames : List Frame} {target : Frame} (part : target ∈ partsIn frames) :
    target.id ∈ idsIn frames := by
  induction frames using forest_induction with
  | nil => cases part
  | cons e cs rest below after =>
      rw [idsIn_cons, List.mem_cons, List.mem_append]
      rcases mem_partsIn_cons.mp part with rfl | inner | later
      · exact .inl rfl
      · exact .inr (.inl (below inner))
      · exact .inr (.inr (after later))

/-- What a search finds is the part it is for. -/
theorem part_of_find {id : Nat} {frames : List Frame} {target : Frame}
    (found : findIn? id frames = some target) : target ∈ partsIn frames ∧ target.id = id := by
  induction frames using forest_induction with
  | nil => cases found
  | cons e cs rest below after =>
      rw [findIn?, find?, Option.or_eq_some_iff] at found
      rw [mem_partsIn_cons]
      rcases found with here | ⟨-, later⟩
      · split at here
        · rename_i same
          cases here
          exact ⟨.inl rfl, same⟩
        · obtain ⟨part, same⟩ := below here
          exact ⟨.inr (.inl part), same⟩
      · obtain ⟨part, same⟩ := after later
        exact ⟨.inr (.inr part), same⟩

/-- Of unique numbers, a part is the first tree, or lies below its first frame, or in the rest; in
the latter cases the frames elsewhere have other numbers. -/
theorem part_cons_cases {e : FrameEntry} {cs rest : List Frame} {target : Frame}
    (unique : (idsIn (.node e cs :: rest)).Nodup) (part : target ∈ partsIn (.node e cs :: rest)) :
    (target = .node e cs ∧ e.id ∉ idsIn rest) ∨
      (target ∈ partsIn cs ∧ e.id ≠ target.id ∧ target.id ∉ idsIn rest) ∨
      (target ∈ partsIn rest ∧ e.id ≠ target.id ∧ target.id ∉ idsIn cs) := by
  obtain ⟨⟨apartInner, apart⟩, -, -, disjoint⟩ := nodup_idsIn_cons.mp unique
  rcases mem_partsIn_cons.mp part with rfl | inner | later
  · exact .inl ⟨rfl, apart⟩
  · have member := id_mem_idsIn inner
    exact .inr (.inl ⟨inner, fun same => apartInner (same ▸ member), disjoint _ member⟩)
  · have member := id_mem_idsIn later
    exact .inr (.inr ⟨later, fun same => apart (same ▸ member),
      fun inner => disjoint _ inner member⟩)

/-- Of unique numbers a search finds every part. -/
theorem find_of_part {frames : List Frame} {target : Frame} (unique : (idsIn frames).Nodup)
    (part : target ∈ partsIn frames) : findIn? target.id frames = some target := by
  induction frames using forest_induction with
  | nil => cases part
  | cons e cs rest below after =>
      obtain ⟨-, inners, others, -⟩ := nodup_idsIn_cons.mp unique
      rw [findIn?, find?]
      rcases part_cons_cases unique part with ⟨rfl, -⟩ | ⟨inner, here, -⟩ | ⟨later, here, absent⟩
      · exact congrArg (Option.or · _) (if_pos rfl)
      · rw [if_neg here, below inners inner]
        rfl
      · rw [if_neg here, findIn_eq_none_iff.mpr absent, after others later]
        rfl

/-- The entries of a part stand next to one another, and all others stay where they are without
it. -/
theorem block_of_part {frames : List Frame} {target : Frame} (unique : (idsIn frames).Nodup)
    (part : target ∈ partsIn frames) :
    ∃ before after, entriesIn frames = before ++ target.entries ++ after ∧
      entriesIn (withoutIn target.id frames) = before ++ after := by
  induction frames using forest_induction with
  | nil => cases part
  | cons e cs rest below after =>
      obtain ⟨-, inners, others, -⟩ := nodup_idsIn_cons.mp unique
      rcases part_cons_cases unique part with
        ⟨rfl, apart⟩ | ⟨inner, here, absent⟩ | ⟨later, here, absent⟩
      · refine ⟨[], entriesIn rest, ?_, ?_⟩
        · simp [entries_eq]
        · change entriesIn (withoutIn e.id _) = _
          rw [withoutIn_cons_self, withoutIn_of_not_mem apart]
          rfl
      · obtain ⟨before, behind, whole, left⟩ := below inners inner
        refine ⟨e :: before, behind ++ entriesIn rest, ?_, ?_⟩
        · simp [whole]
        · rw [withoutIn_cons_of_ne here, withoutIn_of_not_mem absent, entriesIn_cons, left]
          simp
      · obtain ⟨before, behind, whole, left⟩ := after others later
        refine ⟨e :: (entriesIn cs ++ before), behind, ?_, ?_⟩
        · simp [whole]
        · rw [withoutIn_cons_of_ne here, withoutIn_of_not_mem absent, entriesIn_cons, left]
          simp

theorem detach_of_mem {frames : List Frame} {target : Frame} (unique : (idsIn frames).Nodup)
    (member : target ∈ frames) : ∃ left, detach target.id frames = some (target, left) := by
  induction frames with
  | nil => cases member
  | cons frame rest ih =>
      obtain ⟨e, cs⟩ := frame
      obtain ⟨⟨-, apart⟩, -, others, -⟩ := nodup_idsIn_cons.mp unique
      rcases List.mem_cons.mp member with rfl | later
      · exact ⟨rest, if_pos rfl⟩
      · have here : e.id ≠ target.id := fun same =>
          apart (same ▸ id_mem_idsIn (mem_partsIn_of_mem later))
        obtain ⟨left, detached⟩ := ih others later
        refine ⟨.node e cs :: left, ?_⟩
        change (if e.id = target.id then _ else _) = _
        rw [if_neg here, detached]
        rfl

section
variable {parent id : Nat} {e : FrameEntry} {cs rest left : List Frame} {found : Frame}

theorem prune_cons_detach (link : e.id = parent) (h : detach id cs = some (found, left)) :
    pruneIn? parent id (.node e cs :: rest) = some (found, .node e left :: rest) := by
  rw [pruneIn?, if_pos (isSome_find_iff.mpr (.inl link)), prune?, if_pos link, h]
  rfl

theorem prune_cons_below (link : e.id ≠ parent) (h : pruneIn? parent id cs = some (found, left)) :
    pruneIn? parent id (.node e cs :: rest) = some (found, .node e left :: rest) := by
  have inside : (find? parent (.node e cs)).isSome :=
    isSome_find_iff.mpr (.inr (parent_mem_of_prune h))
  rw [pruneIn?, if_pos inside, prune?, if_neg link, h]
  rfl

theorem prune_cons_after (unique : (idsIn (.node e cs :: rest)).Nodup)
    (h : pruneIn? parent id rest = some (found, left)) :
    pruneIn? parent id (.node e cs :: rest) = some (found, .node e cs :: left) := by
  obtain ⟨⟨-, apart⟩, -, -, disjoint⟩ := nodup_idsIn_cons.mp unique
  have behind := parent_mem_of_prune h
  have outside : ¬(find? parent (.node e cs)).isSome := by
    rw [isSome_find_iff]
    rintro (rfl | inner)
    · exact apart behind
    · exact disjoint parent inner behind
  rw [pruneIn?, if_neg outside, h]
  rfl

/-- A part below a frame goes by the number of that frame, or of a frame further down. -/
theorem prune_cons_of_child {target : Frame} (unique : (idsIn (.node e cs :: rest)).Nodup)
    (held : (target ∈ cs ∧ target.entry.parent = some e.id) ∨
      ∃ parent ∈ idsIn cs, target.entry.parent = some parent ∧
        ∃ left, pruneIn? parent target.id cs = some (target, left)) :
    ∃ parent ∈ idsIn (.node e cs :: rest), target.entry.parent = some parent ∧
      ∃ left, pruneIn? parent target.id (.node e cs :: rest) = some (target, left) := by
  obtain ⟨⟨apart, -⟩, inners, -, -⟩ := nodup_idsIn_cons.mp unique
  rw [idsIn_cons]
  rcases held with ⟨child, own⟩ | ⟨parent, member, own, left, pruned⟩
  · obtain ⟨left, detached⟩ := detach_of_mem inners child
    exact ⟨e.id, List.mem_cons_self, own, _, prune_cons_detach rfl detached⟩
  · have here : e.id ≠ parent := fun same => apart (same ▸ member)
    exact ⟨parent, List.mem_cons_of_mem _ (List.mem_append_left _ member), own, _,
      prune_cons_below here pruned⟩

end

/-- Where links are right, a part that is no tree of the forest itself goes by its link. -/
theorem TimedIn.prune_of_part {above : Option Nat} {lo hi : Nat} {frames : List Frame}
    {target : Frame} (timed : TimedIn above lo hi frames) (unique : (idsIn frames).Nodup)
    (part : target ∈ partsIn frames) :
    (target ∈ frames ∧ target.entry.parent = above) ∨
      ∃ parent ∈ idsIn frames, target.entry.parent = some parent ∧
        ∃ left, pruneIn? parent target.id frames = some (target, left) := by
  induction frames using forest_induction generalizing above lo hi with
  | nil => cases part
  | cons e cs rest below after =>
      obtain ⟨⟨link, -, inside⟩, behind⟩ := timedIn_cons.mp timed
      obtain ⟨-, inners, others, -⟩ := nodup_idsIn_cons.mp unique
      rcases part_cons_cases unique part with ⟨rfl, -⟩ | ⟨inner, -, -⟩ | ⟨later, -, -⟩
      · exact .inl ⟨List.mem_cons_self, link⟩
      · exact .inr (prune_cons_of_child unique (below inside inners inner))
      · rcases after behind others later with ⟨tree, own⟩ | ⟨parent, member, own, left, pruned⟩
        · exact .inl ⟨List.mem_cons_of_mem _ tree, own⟩
        · refine .inr ⟨parent, ?_, own, _, prune_cons_after unique pruned⟩
          rw [idsIn_cons]
          exact List.mem_cons_of_mem _ (List.mem_append_right _ member)

/-- The closed trees that a stack of open frames holds, at any depth. -/
def closedParts (frames : List Frame) : List Frame :=
  frames.flatMap fun frame => partsIn frame.children

@[simp] theorem closedParts_nil : closedParts [] = [] := rfl

@[simp] theorem closedParts_cons (e : FrameEntry) (cs outer : List Frame) :
    closedParts (.node e cs :: outer) = partsIn cs ++ closedParts outer := rfl

theorem mem_partsIn_iff {frames : List Frame} {target : Frame} :
    target ∈ partsIn frames ↔ target ∈ frames ∨ target ∈ closedParts frames := by
  induction frames with
  | nil => simp [partsIn]
  | cons frame outer ih =>
      obtain ⟨e, cs⟩ := frame
      rw [mem_partsIn_cons, ih, closedParts_cons, List.mem_append, List.mem_cons]
      exact ⟨by rintro (a | b | c | d) <;> simp [*], by rintro ((a | c) | b | d) <;> simp [*]⟩

/-- No open frame has the number of a closed tree. -/
theorem id_ne_of_closedPart {frames : List Frame} {target : Frame} (unique : (idsIn frames).Nodup)
    (closed : target ∈ closedParts frames) : ∀ frame ∈ frames, frame.id ≠ target.id := by
  induction frames with
  | nil => exact fun _ none => nomatch none
  | cons frame outer ih =>
      obtain ⟨e, cs⟩ := frame
      obtain ⟨⟨apartInner, apart⟩, -, others, disjoint⟩ := nodup_idsIn_cons.mp unique
      rw [List.forall_mem_cons]
      rcases List.mem_append.mp closed with inner | later
      · have member := id_mem_idsIn inner
        refine ⟨fun same : e.id = _ => apartInner (same ▸ member), fun frame outside same => ?_⟩
        exact disjoint _ member (same ▸ id_mem_idsIn (mem_partsIn_of_mem outside))
      · have member := id_mem_idsIn (mem_partsIn_iff.mpr (.inr later))
        exact ⟨fun same : e.id = _ => apart (same ▸ member), ih others later⟩

/-- A closed tree of a stack goes by its link. -/
theorem OpenTimed.prune_of_closedPart {hi : Nat} {frames : List Frame} {target : Frame}
    (timed : OpenTimed hi frames) (unique : (idsIn frames).Nodup)
    (closed : target ∈ closedParts frames) :
    ∃ parent left, target.entry.parent = some parent ∧
      pruneIn? parent target.id frames = some (target, left) := by
  induction frames generalizing hi with
  | nil => cases closed
  | cons frame outer ih =>
      obtain ⟨e, cs⟩ := frame
      obtain ⟨-, inside, below⟩ := timed
      obtain ⟨-, inners, others, -⟩ := nodup_idsIn_cons.mp unique
      rcases List.mem_append.mp closed with inner | later
      · obtain ⟨parent, -, own, left, pruned⟩ :=
          prune_cons_of_child unique (inside.prune_of_part inners inner)
        exact ⟨parent, left, own, pruned⟩
      · obtain ⟨parent, left, own, pruned⟩ := ih below others later
        exact ⟨parent, _, own, prune_cons_after unique pruned⟩

theorem withoutIn_append (id : Nat) (a b : List Frame) :
    withoutIn id (a ++ b) = withoutIn id a ++ withoutIn id b := by
  induction a with
  | nil => rfl
  | cons frame rest ih =>
      rw [List.cons_append, withoutIn, withoutIn, ih]
      split <;> rfl

theorem withoutIn_reverse (id : Nat) (frames : List Frame) :
    withoutIn id frames.reverse = (withoutIn id frames).reverse := by
  induction frames with
  | nil => rfl
  | cons frame outer ih =>
      have split : withoutIn id (frame :: outer) = withoutIn id [frame] ++ withoutIn id outer :=
        withoutIn_append id [frame] outer
      have single : (withoutIn id [frame]).reverse = withoutIn id [frame] := by
        unfold withoutIn withoutIn
        split <;> rfl
      rw [List.reverse_cons, withoutIn_append, ih, split, List.reverse_append, single]

theorem mem_partsIn_reverse {frames : List Frame} {target : Frame} :
    target ∈ partsIn frames.reverse ↔ target ∈ partsIn frames := by
  induction frames with
  | nil => exact Iff.rfl
  | cons frame outer ih =>
      have split : target ∈ partsIn (frame :: outer) ↔
          target ∈ partsIn [frame] ∨ target ∈ partsIn outer := mem_partsIn_append (a := [frame])
      rw [List.reverse_cons, mem_partsIn_append, ih, split, or_comm]

end Frame
end SpanCapture
