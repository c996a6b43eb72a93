import SpanCapture.Proofs.Frame.Parts
import SpanCapture.Proofs.Recorder.Counters
import SpanCapture.Proofs.Recorder.Timeline

/-! What discarding takes out. A discard succeeds for the root, which stays and gets a hint, and for
every closed frame below which nothing failed: that frame goes with all that is below it, and
nothing else goes. Any other discard changes nothing. -/
namespace SpanCapture
namespace Frame

def Clean (frame : Frame) : Prop := ∀ e ∈ frame.entries, e.op.hasException = false

instance (frame : Frame) : Decidable frame.Clean :=
  inferInstanceAs (Decidable (∀ e ∈ frame.entries, _ = false))

theorem clean_iff {frame : Frame} : frame.Clean ↔ frame.containsException = false := by
  rw [Clean, entries_eq, containsException_eq, List.any_eq_false]
  exact forall₂_congr fun _ _ => Bool.eq_false_iff

end Frame

namespace Recorder

section
variable {now : Nat} {r : Recorder} {id : Nat} {root target : Frame}

/-- A closed tree in which nothing failed goes as a whole. -/
theorem Timely.discard_closed (h : Timely now r) (closed : target ∈ Frame.closedParts r.openFrames)
    (clean : target.Clean) :
    r.discard target.id = (true, { r with
      openFrames := Frame.withoutIn target.id r.openFrames
      frameCount := r.frameCount - target.size }) := by
  obtain ⟨parent, left, link, pruned⟩ := h.timed.prune_of_closedPart h.nodup closed
  have others := Frame.id_ne_of_closedPart h.nodup closed
  have found : r.find? target.id = some target :=
    Frame.find_of_part h.nodup (Frame.mem_partsIn_iff.mpr (.inr closed))
  cases isRoot : r.root? with
  | none =>
      have idle : r.openFrames = [] := List.getLast?_eq_none_iff.mp isRoot
      rw [idle] at closed
      cases closed
  | some root =>
      have notRoot : root.id ≠ target.id := others root (List.mem_of_getLast? isRoot)
      have notOpen : ¬(r.openFrames.any fun frame => frame.id == target.id) := by
        simpa using others
      unfold Recorder.discard
      rw [isRoot]
      dsimp only
      rw [if_neg notRoot, if_neg notOpen, found]
      dsimp only
      rw [Frame.clean_iff.mp clean, if_neg Bool.false_ne_true, link]
      dsimp only
      rw [removeClosed, pruned, Frame.prune_eq_withoutIn h.nodup pruned]

theorem Timely.discard_succeeds_iff (h : Timely now r) :
    (r.discard id).1 = true ↔ (∃ root, r.root? = some root ∧ root.id = id) ∨
      ∃ target ∈ Frame.closedParts r.openFrames, target.id = id ∧ target.Clean := by
  constructor
  · intro success
    have discarded := discards id r
    generalize r.discard id = result at discarded success
    cases discarded with
    | refused => cases success
    | root isRoot same => exact .inl ⟨_, isRoot, same⟩
    | @closed root target removed parent left isRoot notRoot closed found clean pruned =>
        obtain ⟨part, same⟩ := Frame.part_of_find found
        rcases Frame.mem_partsIn_iff.mp part with isOpen | below
        · exact absurd same (closed target isOpen)
        · exact .inr ⟨target, below, same, Frame.clean_iff.mpr clean⟩
  · rintro (⟨root, isRoot, rfl⟩ | ⟨target, closed, rfl, clean⟩)
    · rw [discard_root isRoot]
    · rw [h.discard_closed closed clean]

theorem discard_refused (refused : (r.discard id).1 = false) : (r.discard id).2 = r := by
  have discarded := discards id r
  generalize r.discard id = result at discarded refused
  cases discarded with
  | refused => rfl
  | root => cases refused
  | closed => cases refused

end

/-- After whatever answered calls on a new recorder: a discard succeeds just for the root and for
the closed frames below which nothing failed. For the root it sets a hint. A closed frame goes with
the block of entries it begins, all others stay in their order, and the count drops by the block;
nothing else changes. A discard that fails changes nothing. -/
theorem discard_takes_one_closed_tree_or_nothing {limits : Limits} {analyzers : AnalyzerRegister}
    {identity : Identity} {clock : Clock} {s : Session}
    {history : List (Moment Session Call (Outcome Answer))}
    (run : Run step Answered ⟨clock, { limits, analyzers, identity }⟩ history s) (id : Nat) :
    let r := s.recorder
    ((r.discard id).1 = true ↔ (∃ root, r.root? = some root ∧ root.id = id) ∨
      ∃ target ∈ Frame.closedParts r.openFrames, target.id = id ∧ target.Clean) ∧
    (∀ root, r.root? = some root → root.id = id →
      (r.discard id).2 = r.setHint HintName.discard (.bool true)) ∧
    (∀ target ∈ Frame.closedParts r.openFrames, target.id = id → target.Clean →
      ∃ before after openFrames,
        Frame.entriesIn r.openFrames.reverse = before ++ target.entries ++ after ∧
        Frame.entriesIn openFrames.reverse = before ++ after ∧
        target.entries.length ≤ r.frameCount ∧
        (r.discard id).2 =
          { r with openFrames, frameCount := r.frameCount - target.entries.length }) ∧
    ((r.discard id).1 = false → (r.discard id).2 = r) := by
  have kept : Timely s.clock.now s.recorder ∧ s.recorder.Coherent s.clock.zero := by
    refine run.invariant (P := fun s => Timely s.clock.now s.recorder ∧
      s.recorder.Coherent s.clock.zero) ⟨.idle rfl, .fresh rfl⟩ ?_
    intro s call ⟨timely, coherent⟩ answered
    exact ⟨(timely.step call).2, coherent.step answered⟩
  obtain ⟨timely, coherent⟩ := kept
  refine ⟨timely.discard_succeeds_iff, ?_, ?_, discard_refused⟩
  · rintro root isRoot rfl
    rw [discard_root isRoot]
  · rintro target closed rfl clean
    have part : target ∈ Frame.partsIn s.recorder.openFrames.reverse :=
      Frame.mem_partsIn_reverse.mpr (Frame.mem_partsIn_iff.mpr (.inr closed))
    obtain ⟨before, after, whole, left⟩ :=
      Frame.block_of_part (timely.increasing.imp Nat.ne_of_lt) part
    rw [Frame.withoutIn_reverse] at left
    refine ⟨before, after, _, whole, left, ?_, ?_⟩
    · rw [coherent.frameCount, Frame.sizeAll_eq, ← (Frame.perm_entriesIn_reverse _).length_eq,
        whole, List.length_append, List.length_append]
      omega
    · rw [timely.discard_closed closed clean, Frame.length_entries]

/-- Below an open root a closed frame with a child, one that failed, and one still open. -/
def partlyFailed : List Call :=
  [.enter { kind := "http", label := "root" }, .wait 5, .enter { kind := "db", label := "first" },
    .enter { kind := "net", label := "inner" }, .exit, .exit,
    .enter { kind := "db", label := "second" }, .act (.fail "refused"), .exit,
    .enter { kind := "db", label := "last" }]

theorem discards_of_partly_failed :
    (∀ m ∈ moments step (Session.plain 10) partlyFailed, Answered m) ∧
      let r := (after step (Session.plain 10) partlyFailed).recorder
      ((r.discard 1).1 = true ∧ (r.discard 1).2 = r.setHint HintName.discard (.bool true)) ∧
      ((r.discard 2).1 = true ∧ ∃ (target : Frame) (before after : List FrameEntry),
        target.id = 2 ∧ target.entries.map FrameEntry.id = [2, 3] ∧
        Frame.entriesIn r.openFrames.reverse = before ++ target.entries ++ after ∧
        Frame.entriesIn (r.discard 2).2.openFrames.reverse = before ++ after ∧
        (r.discard 2).2.frameCount = 3) ∧
      ((r.discard 4).1 = false ∧ (r.discard 4).2 = r) ∧ (r.discard 5).1 = false := by
  have ok : ∀ m ∈ moments step (Session.plain 10) partlyFailed, Answered m := by decide +kernel
  have all := discard_takes_one_closed_tree_or_nothing (Run.of_moments ok)
  have isRoot : (after step (Session.plain 10) partlyFailed).recorder.root?.map Frame.id =
      some 1 := by decide +kernel
  obtain ⟨target, closed, number, clean, ids⟩ : ∃ target ∈ Frame.closedParts
      (after step (Session.plain 10) partlyFailed).recorder.openFrames,
      target.id = 2 ∧ target.Clean ∧ target.entries.map FrameEntry.id = [2, 3] := by decide +kernel
  have failed : ((after step (Session.plain 10) partlyFailed).recorder.discard 4).1 = false := by
    decide +kernel
  obtain ⟨before, after, left, whole, rest, -, same⟩ := (all 2).2.2.1 target closed number clean
  obtain ⟨root, bottom, first⟩ := Option.map_eq_some_iff.mp isRoot
  have gone := (congrArg (fun r => Frame.entriesIn r.openFrames.reverse) same).trans rest
  exact ⟨ok, ⟨(all 1).1.mpr (.inl ⟨root, bottom, first⟩), (all 1).2.1 root bottom first⟩,
    ⟨(all 2).1.mpr (.inr ⟨target, closed, number, clean⟩), target, before, after, number, ids,
      whole, gone, by decide +kernel⟩, ⟨failed, (all 4).2.2.2 failed⟩, by decide +kernel⟩

end Recorder
end SpanCapture
