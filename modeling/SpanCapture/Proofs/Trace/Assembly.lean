import SpanCapture.Proofs.Frame.Timeline
import SpanCapture.Trace.Assembly

/-! Making a trace of a finished root. Nothing in it waits to be finalized, so what is
delivered is the root as it was closed, with a diagnostic frame behind its children where one
is asked for. That frame starts and ends with the root and has a number above all others. -/
namespace SpanCapture
namespace Frame

/-- Without pending scripts there is nothing to finalize. -/
theorem finalizeIn_settled (clock : Clock) {frames : List Frame}
    (h : ∀ e ∈ entriesIn frames, e.op.Settled) : finalizeIn clock frames = (clock, .done frames) := by
  induction frames using forest_induction with
  | nil => rfl
  | cons e cs rest below after =>
      rw [entriesIn_cons, List.forall_mem_cons, List.forall_mem_append] at h
      obtain ⟨here, inner, later⟩ := h
      rw [finalizeIn, finalizeAll, Operation.finalize_settled here]
      dsimp only
      rw [below inner]
      dsimp only
      rw [after later]

theorem finalizeAll_settled (clock : Clock) {root : Frame}
    (h : ∀ e ∈ entriesIn [root], e.op.Settled) : root.finalizeAll clock = (clock, .done root) := by
  obtain ⟨e, cs⟩ := root
  rw [entriesIn_cons, List.forall_mem_cons, List.forall_mem_append] at h
  rw [finalizeAll, Operation.finalize_settled h.1]
  dsimp only
  rw [finalizeIn_settled clock h.2.1]

theorem le_greatestId {root : Frame} {id : Nat} (h : id ∈ idsIn [root]) : id ≤ root.greatestId := by
  rw [greatestId, entries_eq]
  change id ≤ (idsIn [root]).foldl max 0
  rw [List.foldl_max_eq_max (List.ne_nil_of_mem h)]
  exact Nat.le_trans (List.le_max_of_mem h) (Nat.le_max_right 0 _)

theorem entriesIn_addChild (root child : Frame) :
    entriesIn [root.addChild child] = entriesIn [root] ++ entriesIn [child] := by
  obtain ⟨e, cs⟩ := root
  rw [addChild, entriesIn_cons, entriesIn_cons, entriesIn_append, entriesIn_nil, List.append_nil,
    List.append_nil, List.cons_append]

end Frame

namespace Assembler

theorem settled_diagnosticOperation (callStack : List String) (identity : Identity) :
    (diagnosticOperation callStack identity).Settled := by
  unfold diagnosticOperation
  dsimp only
  split <;> rfl

theorem entriesIn_diagnose (callStack : List String) (identity : Identity) (root : Frame) :
    Frame.entriesIn [diagnose callStack identity root] = Frame.entriesIn [root] ++
      [.opened (root.greatestId + 1) (some root.id) (diagnosticOperation callStack identity)
        root.entry.span.finish] := Frame.entriesIn_addChild root _

theorem finished_diagnose {root : Frame} (h : root.Finished) (callStack : List String)
    (identity : Identity) : (diagnose callStack identity root).Finished := by
  refine ⟨?_, ?_, ?_⟩
  · obtain ⟨e, cs⟩ := root
    obtain ⟨link, start, inner⟩ := h.timed
    exact ⟨link, start, inner.append ⟨rfl, Nat.le_refl _, Nat.le_refl _⟩ (Nat.le_refl _)⟩
  · rw [Frame.idsIn, entriesIn_diagnose, List.map_append]
    refine List.pairwise_append.mpr ⟨h.increasing, List.pairwise_singleton _ _, ?_⟩
    intro id member last isLast
    rw [List.mem_singleton.mp isLast]
    exact Nat.lt_succ_of_le (Frame.le_greatestId member)
  · rw [entriesIn_diagnose, List.forall_mem_append]
    refine ⟨h.settled, ?_⟩
    intro e member
    rw [List.mem_singleton.mp member]
    exact settled_diagnosticOperation callStack identity

def rootOf (a : Assembler) (completed : CompletedTrace) : Frame :=
  if a.applicationOf completed = unknownApplication ∧ a.diagnoseUnknown then
    diagnose a.callStack completed.identity completed.root
  else completed.root

theorem finished_rootOf (a : Assembler) {completed : CompletedTrace} (h : completed.root.Finished) :
    (a.rootOf completed).Finished := by
  unfold rootOf
  split
  · exact finished_diagnose h _ _
  · exact h

theorem hasException_diagnosticOperation (callStack : List String) (identity : Identity) :
    (diagnosticOperation callStack identity).hasException = false := by
  unfold diagnosticOperation
  dsimp only
  rw [Operation.hasException_put_of_ne (by decide)]
  split
  · rw [Operation.hasException_put_of_ne (by decide), Operation.hasException_put_of_ne (by decide),
      Operation.hasException_put_of_ne (by decide)]
    rfl
  · rw [Operation.hasException_put_of_ne (by decide), Operation.hasException_put_of_ne (by decide)]
    rfl

theorem mem_rootOf (a : Assembler) {completed : CompletedTrace} {e : FrameEntry}
    (member : e ∈ Frame.entriesIn [completed.root]) : e ∈ Frame.entriesIn [a.rootOf completed] := by
  unfold rootOf
  split
  · rw [entriesIn_diagnose]
    exact List.mem_append_left _ member
  · exact member

theorem id_rootOf (a : Assembler) (completed : CompletedTrace) :
    (a.rootOf completed).id = completed.root.id := by
  unfold rootOf
  split
  · obtain ⟨e, cs⟩ := completed.root
    rfl
  · rfl

/-- A diagnostic frame is no failure. -/
theorem containsException_rootOf (a : Assembler) (completed : CompletedTrace) :
    (a.rootOf completed).containsException = completed.root.containsException := by
  unfold rootOf
  split
  · have quiet : (FrameEntry.opened (completed.root.greatestId + 1) (some completed.root.id)
        (diagnosticOperation a.callStack completed.identity)
        completed.root.entry.span.finish).op.hasException = false :=
      hasException_diagnosticOperation a.callStack completed.identity
    rw [Frame.containsException_eq, Frame.containsException_eq, entriesIn_diagnose, List.any_append,
      List.any_cons, quiet, List.any_nil, Bool.or_false, Bool.or_false]
  · rfl

section
variable {ignored : List String} {application : String} {hints : Hints} {root : Frame}

/-- A trace with a failure is dropped for its application or for its age only. -/
theorem dumpReason?_of_exception (failed : root.containsException)
    (wanted : ¬ignored.contains application) (inTime : hints.flag HintName.overdue = false) :
    dumpReason? ignored application hints root = none := by
  rw [dumpReason?, if_neg wanted, inTime, failed, Bool.not_true, Bool.and_false]
  rfl

theorem dumpReason?_of_discard (clean : root.containsException = false)
    (discarded : hints.flag HintName.discard) :
    ∃ reason, dumpReason? ignored application hints root = some reason := by
  unfold dumpReason?
  split
  · exact ⟨_, rfl⟩
  · split
    · exact ⟨_, rfl⟩
    · rw [discarded, clean]
      exact ⟨_, rfl⟩

/-- A trace the watchdog closed is dropped, with a failure or without. -/
theorem dumpReason?_of_overdue (overdue : hints.flag HintName.overdue) :
    dumpReason? ignored application hints root = some
      (if ignored.contains application then .ignoredApplication else .exceededMaxTime) := by
  rw [dumpReason?, if_pos overdue]
  split <;> rfl

theorem hasException_traceOf (failed : root.containsException) (a : Assembler)
    (fresh application : String) (completed : CompletedTrace) :
    (a.traceOf fresh application completed root).hints.find? HintName.hasException =
      some (.bool true) := by
  apply Hints.find?_values
  rw [if_pos failed]
  exact Hints.value?_set_self _ _ _

end

/-- What becomes of a completed trace with a finished root; the clock stands still. -/
theorem assemble_finished (a : Assembler) (ignored : List String) (fresh : String) (clock : Clock)
    {completed : CompletedTrace} (h : completed.root.Finished) :
    a.assemble ignored fresh clock completed = (clock, .done
      (match dumpReason? ignored (a.applicationOf completed) completed.hints
          (a.rootOf completed) with
        | some reason => .dumped reason
        | none => .trace (a.traceOf fresh (a.applicationOf completed) completed
            (a.rootOf completed)))) := by
  have final := Frame.finalizeAll_settled clock (a.finished_rootOf h).settled
  cases dumped : dumpReason? ignored (a.applicationOf completed) completed.hints
      (a.rootOf completed) with
  | some reason =>
      rw [rootOf] at dumped
      simp only [assemble, dumped]
  | none =>
      rw [rootOf] at dumped final ⊢
      simp only [assemble, dumped, final]

/-- Whatever a trace closed by the watchdog holds, it is dropped and the clock stands still. -/
theorem assemble_overdue (a : Assembler) (ignored : List String) (fresh : String) (clock : Clock)
    {completed : CompletedTrace} (overdue : completed.hints.flag HintName.overdue) :
    a.assemble ignored fresh clock completed = (clock, .done (.dumped
      (if ignored.contains (a.applicationOf completed) then .ignoredApplication
      else .exceededMaxTime))) := by
  simp only [assemble, dumpReason?_of_overdue overdue]

end Assembler
end SpanCapture
