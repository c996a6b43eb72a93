import SpanCapture.Proofs.Frame.Stack

/-! Time in forests. A forest is timed between two moments if its trees follow one another
there, each tree's children are timed between the start and the end of its first frame, and
every link names the frame above. The stack of open frames is timed up to a moment in the same
sense, with the present as the end of its top. -/
namespace SpanCapture
namespace Frame

mutual

/-- A tree under a parent that starts at a moment or later. -/
def Timed (parent : Option Nat) (lo : Nat) : Frame → Prop
  | .node e children => e.parent = parent ∧ lo ≤ e.span.start ∧
    TimedIn (some e.id) e.span.start e.span.finish children

def TimedIn (parent : Option Nat) (lo hi : Nat) : List Frame → Prop
  | [] => lo ≤ hi
  | frame :: rest => Timed parent lo frame ∧ TimedIn parent frame.entry.span.finish hi rest

end

/-- A stack of open frames, innermost first, up to a moment. -/
def OpenTimed (hi : Nat) : List Frame → Prop
  | [] => True
  | frame :: outer => frame.entry.parent = outer.head?.map id ∧
    TimedIn (some frame.id) frame.entry.span.start hi frame.children ∧
    OpenTimed frame.entry.span.start outer

theorem timedIn_cons {parent : Option Nat} {lo hi : Nat} {e : FrameEntry} {cs rest : List Frame} :
    TimedIn parent lo hi (.node e cs :: rest) ↔
      (e.parent = parent ∧ lo ≤ e.span.start ∧
        TimedIn (some e.id) e.span.start e.span.finish cs) ∧
      TimedIn parent e.span.finish hi rest := Iff.rfl

section
variable {parent : Option Nat} {lo mid hi : Nat} {frames : List Frame}

theorem TimedIn.le (h : TimedIn parent lo hi frames) : lo ≤ hi := by
  induction frames using forest_induction generalizing parent lo hi with
  | nil => exact h
  | cons e cs rest below after =>
      obtain ⟨⟨-, start, inner⟩, later⟩ := timedIn_cons.mp h
      exact Nat.le_trans start (Nat.le_trans (below inner) (after later))

theorem Timed.mono {frame : Frame} {earlier : Nat} (h : Timed parent lo frame)
    (before : earlier ≤ lo) : Timed parent earlier frame := by
  obtain ⟨e, cs⟩ := frame
  obtain ⟨link, start, inner⟩ := h
  exact ⟨link, Nat.le_trans before start, inner⟩

theorem TimedIn.later {later : Nat} (h : TimedIn parent lo hi frames) (more : hi ≤ later) :
    TimedIn parent lo later frames := by
  induction frames generalizing lo with
  | nil => exact Nat.le_trans h more
  | cons frame rest ih => exact ⟨h.1, ih h.2⟩

theorem TimedIn.earlier {earlier : Nat} (h : TimedIn parent lo hi frames) (before : earlier ≤ lo) :
    TimedIn parent earlier hi frames := by
  cases frames with
  | nil => exact Nat.le_trans before h
  | cons frame rest => exact ⟨h.1.mono before, h.2⟩

/-- A tree that starts after a forest can be put behind it. -/
theorem TimedIn.append {frame : Frame} (h : TimedIn parent lo mid frames)
    (timed : Timed parent mid frame) (last : frame.entry.span.finish ≤ hi) :
    TimedIn parent lo hi (frames ++ [frame]) := by
  induction frames generalizing lo with
  | nil => exact ⟨timed.mono h, last⟩
  | cons first rest ih => exact ⟨h.1, ih h.2⟩

theorem TimedIn.withoutIn (h : TimedIn parent lo hi frames) (id : Nat) :
    TimedIn parent lo hi (withoutIn id frames) := by
  induction frames using forest_induction generalizing parent lo hi with
  | nil => exact h
  | cons e cs rest below after =>
      obtain ⟨⟨link, start, inner⟩, later⟩ := timedIn_cons.mp h
      by_cases here : e.id = id
      · subst here
        rw [withoutIn_cons_self]
        exact (after later).earlier (Nat.le_trans start inner.le)
      · rw [withoutIn_cons_of_ne here]
        exact timedIn_cons.mpr ⟨⟨link, start, below inner⟩, after later⟩

theorem timedIn_unmarkedIn : TimedIn parent lo hi (unmarkedIn frames) ↔ TimedIn parent lo hi frames := by
  induction frames using forest_induction generalizing parent lo hi with
  | nil => exact Iff.rfl
  | cons e cs rest below after =>
      rw [unmarkedIn_cons, timedIn_cons, timedIn_cons, after]
      exact and_congr_left' (and_congr_right' (and_congr_right' below))

theorem OpenTimed.mono {later : Nat} (h : OpenTimed hi frames) (more : hi ≤ later) :
    OpenTimed later frames := by
  cases frames with
  | nil => trivial
  | cons frame outer => exact ⟨h.1, h.2.1.later more, h.2.2⟩

/-- Without its top a stack is timed up to the same moment. -/
theorem OpenTimed.tail {frame : Frame} {outer : List Frame} (h : OpenTimed hi (frame :: outer)) :
    OpenTimed hi outer := h.2.2.mono h.2.1.le

/-- The top frame closes at a moment that has come and goes below the next one. -/
theorem OpenTimed.close {e e' p : FrameEntry} {cs siblings outer : List Frame}
    (h : OpenTimed lo (.node e cs :: .node p siblings :: outer)) (same : e'.id = e.id)
    (link : e'.parent = e.parent) (start : e'.span.start = e.span.start)
    (finish : e'.span.finish = hi) (more : lo ≤ hi) :
    OpenTimed hi (.node p (siblings ++ [.node e' cs]) :: outer) := by
  obtain ⟨parent, inner, link', before, rest⟩ := h
  refine ⟨link', before.append ⟨link.trans parent, Nat.le_of_eq start.symm, ?_⟩
    (Nat.le_of_eq finish), rest⟩
  rw [same, start, finish]
  exact inner.later more

theorem OpenTimed.withoutIn {id : Nat} (h : OpenTimed hi frames)
    (closed : ∀ frame ∈ frames, frame.id ≠ id) : OpenTimed hi (withoutIn id frames) := by
  induction frames generalizing hi with
  | nil => trivial
  | cons frame outer ih =>
      obtain ⟨top, rest⟩ := List.forall_mem_cons.mp closed
      obtain ⟨link, inner, below⟩ := h
      obtain ⟨e, cs⟩ := frame
      have outerIds : (Frame.withoutIn id outer).head?.map Frame.id = outer.head?.map Frame.id := by
        rw [← List.head?_map, ← List.head?_map, map_id_withoutIn rest]
      rw [withoutIn_open_cons top]
      exact ⟨link.trans outerIds.symm, inner.withoutIn id, ih below rest⟩

theorem openTimed_unmarkedIn : OpenTimed hi (unmarkedIn frames) ↔ OpenTimed hi frames := by
  induction frames generalizing hi with
  | nil => exact Iff.rfl
  | cons frame outer ih =>
      obtain ⟨e, cs⟩ := frame
      have outerIds : (unmarkedIn outer).head?.map Frame.id = outer.head?.map Frame.id := by
        rw [← List.head?_map, ← List.head?_map, map_id_unmarkedIn]
      change (e.parent = _ ∧ TimedIn _ e.span.start hi (unmarkedIn cs) ∧ OpenTimed _ _) ↔ _
      rw [outerIds, timedIn_unmarkedIn, ih]
      exact Iff.rfl

end

mutual

def parts : Frame → List Frame
  | .node entry children => .node entry children :: partsIn children

def partsIn : List Frame → List Frame
  | [] => []
  | frame :: rest => parts frame ++ partsIn rest

end

def totalDuration : List Frame → Nat
  | [] => 0
  | frame :: rest => frame.entry.span.duration + totalDuration rest

/-- A closed root whose links, numbers and times are as they should be. -/
structure Proper (root : Frame) : Prop where
  wellFormed : root.wellFormed
  parent : root.entry.parent = none
  isRoot : root.entry.isRoot
  /-- Numbers strictly increase along the walk. -/
  increasing : (root.entries.map FrameEntry.id).Pairwise (· < ·)
  /-- Of two siblings the earlier one ended before the later one started. -/
  apart : ∀ frame ∈ root.parts, frame.children.Pairwise fun a b =>
    a.entry.span.finish ≤ b.entry.span.start
  durations : ∀ frame ∈ root.parts,
    totalDuration frame.children ≤ frame.entry.span.duration

section
variable {parent : Option Nat} {lo hi : Nat} {frames : List Frame}

theorem TimedIn.parts (h : TimedIn parent lo hi frames) : ∀ frame ∈ partsIn frames,
    TimedIn (some frame.id) frame.entry.span.start frame.entry.span.finish frame.children := by
  induction frames using forest_induction generalizing parent lo hi with
  | nil => exact fun _ none => by cases none
  | cons e cs rest below after =>
      obtain ⟨⟨-, -, inner⟩, later⟩ := timedIn_cons.mp h
      intro frame member
      rcases List.mem_append.mp member with tree | member
      · rcases List.mem_cons.mp tree with rfl | member
        · exact inner
        · exact below inner frame member
      · exact after later frame member

theorem TimedIn.starts (h : TimedIn parent lo hi frames) :
    ∀ frame ∈ frames, lo ≤ frame.entry.span.start := by
  induction frames generalizing lo with
  | nil => exact fun _ none => by cases none
  | cons first rest ih =>
      obtain ⟨e, cs⟩ := first
      obtain ⟨⟨-, start, inner⟩, later⟩ := timedIn_cons.mp h
      intro frame member
      rcases List.mem_cons.mp member with rfl | member
      · exact start
      · exact Nat.le_trans start (Nat.le_trans inner.le (ih later frame member))

theorem TimedIn.apart (h : TimedIn parent lo hi frames) :
    frames.Pairwise fun a b => a.entry.span.finish ≤ b.entry.span.start := by
  induction frames generalizing lo with
  | nil => exact .nil
  | cons first rest ih => exact .cons h.2.starts (ih h.2)

/-- Frames one after another take no longer together than there is time. -/
theorem TimedIn.totalDuration (h : TimedIn parent lo hi frames) :
    lo + totalDuration frames ≤ hi := by
  induction frames generalizing lo with
  | nil => exact h
  | cons first rest ih =>
      obtain ⟨e, cs⟩ := first
      obtain ⟨⟨-, start, inner⟩, later⟩ := timedIn_cons.mp h
      have own := inner.le
      have others := ih later
      change lo + ((e.span.finish - e.span.start) + Frame.totalDuration rest) ≤ hi
      omega

/-- Numbers that increase along the walk and times that fit make the children fit. -/
theorem TimedIn.childrenFit {p : FrameEntry} (h : TimedIn (some p.id) lo hi frames)
    (start : p.span.start ≤ lo) (finish : hi ≤ p.span.finish)
    (increasing : (p.id :: idsIn frames).Pairwise (· < ·)) : childrenFit p frames := by
  induction frames using forest_induction generalizing p lo hi with
  | nil => rfl
  | cons e cs rest below after =>
      obtain ⟨⟨link, starts, inner⟩, later⟩ := timedIn_cons.mp h
      obtain ⟨greater, sorted⟩ := List.pairwise_cons.mp increasing
      rw [idsIn_cons] at greater sorted
      obtain ⟨-, both⟩ := List.pairwise_cons.mp sorted
      obtain ⟨-, others, -⟩ := List.pairwise_append.mp both
      have own : Frame.childrenFit e cs := by
        refine below inner (Nat.le_refl _) (Nat.le_refl _) ?_
        exact sorted.sublist (List.Sublist.cons_cons _ (List.sublist_append_left _ _))
      have rest : Frame.childrenFit p rest := by
        refine after later ?_ finish ?_
        · exact Nat.le_trans start (Nat.le_trans starts inner.le)
        · refine List.pairwise_cons.mpr ⟨fun id member => greater id ?_, others⟩
          exact List.mem_cons_of_mem _ (List.mem_append_right _ member)
      have inside : p.span.contains e.span := by
        rw [Interval.contains_iff]
        exact ⟨Nat.le_trans start starts, Nat.le_trans later.le finish⟩
      have number : p.id < e.id := greater e.id List.mem_cons_self
      rw [Frame.childrenFit, Frame.wellFormed]
      simp [link, number, inside, own, rest]

end

/-- A timed root under no parent, with increasing numbers, is proper. -/
theorem Timed.proper {root : Frame} {lo : Nat} (h : Timed none lo root)
    (increasing : (idsIn [root]).Pairwise (· < ·)) : root.Proper := by
  obtain ⟨e, cs⟩ := root
  have forest : TimedIn none lo e.span.finish [.node e cs] := ⟨h, Nat.le_refl _⟩
  have parts : ∀ frame ∈ (Frame.node e cs).parts, frame ∈ partsIn [.node e cs] :=
    fun frame member => List.mem_append_left _ member
  obtain ⟨link, start, inner⟩ := h
  rw [idsIn_cons, idsIn_nil, List.append_nil] at increasing
  refine ⟨?_, link, ?_, ?_, ?_, ?_⟩
  · exact inner.childrenFit (Nat.le_refl _) (Nat.le_refl _) increasing
  · exact Option.isNone_iff_eq_none.mpr link
  · rw [entries_eq]
    change (idsIn [_]).Pairwise _
    rwa [idsIn_cons, idsIn_nil, List.append_nil]
  · exact fun frame member => (forest.parts frame (parts frame member)).apart
  · intro frame member
    have total := (forest.parts frame (parts frame member)).totalDuration
    change _ ≤ frame.entry.span.finish - frame.entry.span.start
    omega

/-- A root as closing leaves it: timed under no parent, its numbers increasing, and no script
waiting in it. -/
structure Finished (root : Frame) : Prop where
  timed : Timed none 0 root
  increasing : (idsIn [root]).Pairwise (· < ·)
  settled : ∀ e ∈ entriesIn [root], e.op.Settled

theorem Finished.proper {root : Frame} (h : root.Finished) : root.Proper :=
  h.timed.proper h.increasing

end Frame
end SpanCapture
