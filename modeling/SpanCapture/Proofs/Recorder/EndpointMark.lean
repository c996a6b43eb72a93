import Mathlib.Data.List.Nodup
import SpanCapture.Proofs.Operation.Sparing
import SpanCapture.Proofs.Recorder.Course

/-! The endpoint mark among the open frames. It is on the frame that the endpoint names and on no
other: entering moves it, leaving keeps it, and a frame taken out takes it along. -/
namespace SpanCapture

/-- An analyzer that reports the frame it was asked about. -/
def Analyzer.Honest (analyzer : Analyzer) : Prop :=
  ∀ op frame depth found, analyzer.locate op frame depth = .done (some found) → found.frame = frame

theorem Analyzer.honest_typed (kinds : List String) (base penalty : Int) :
    (Analyzer.typed kinds base penalty).Honest := by
  intro op frame depth found located
  change Outcome.done (Analyzer.typedCandidate kinds base penalty op frame depth) = _ at located
  unfold Analyzer.typedCandidate at located
  split at located <;> cases located
  rfl

theorem AnalyzerRegister.frame_of_mem_candidates {op : Operation} {frame depth : Nat}
    {above : List String} {register : AnalyzerRegister} {c : Endpoint}
    (honest : ∀ analyzer ∈ register, analyzer.Honest)
    (member : c ∈ register.candidates op frame depth above) : c.frame = frame := by
  obtain ⟨analyzer, asked, located⟩ := located_of_mem_candidates member
  rcases List.mem_cons.mp asked with rfl | asked
  · cases located
    rfl
  · exact honest analyzer asked op frame depth c located

/-- The mark is here just if this is the frame, and no pending script touches it. -/
structure FrameEntry.Bears (frame : Nat) (e : FrameEntry) : Prop where
  marked : e.op.isEndpointSource ↔ e.id = frame
  spares : e.op.Spares Operation.endpointKey

namespace Frame

/-- Taking out a closed frame takes out what is below it and nothing else. -/
theorem mem_idsIn_withoutIn {id target : Nat} {frames : List Frame}
    (unique : (idsIn frames).Nodup) (closed : ∀ frame ∈ frames, frame.id ≠ target) :
    id ∈ idsIn (withoutIn target frames) ↔ id ∈ idsIn frames ∧
      ¬ ∃ v ∈ openVisits frames, v.entry.id = id ∧ v.outside target = false := by
  have visited (frames : List Frame) (id : Nat) : id ∈ idsIn frames ↔
      ∃ v ∈ openVisits frames, v.entry.id = id := by
    rw [← mem_idsIn_reverse, idsIn, ← map_entry_openVisits, List.map_map,
      List.mem_map]
    rfl
  have once : ((openVisits frames).map fun v => v.entry.id).Nodup := by
    rw [← nodup_idsIn_reverse, idsIn, ← map_entry_openVisits, List.map_map]
      at unique
    exact unique
  rw [visited, visited, openVisits_withoutIn closed]
  constructor
  · rintro ⟨v, member, rfl⟩
    obtain ⟨inside, outside⟩ := List.mem_filter.mp member
    refine ⟨⟨v, inside, rfl⟩, ?_⟩
    rintro ⟨w, also, same, gone⟩
    rw [List.inj_on_of_nodup_map once also inside same, outside] at gone
    cases gone
  · rintro ⟨⟨v, inside, rfl⟩, kept⟩
    refine ⟨v, List.mem_filter.mpr ⟨inside, ?_⟩, rfl⟩
    exact Bool.not_eq_false _ |>.mp fun gone => kept ⟨v, inside, rfl, gone⟩

end Frame

namespace Recorder

/-- Taking a frame out of an open trace takes another out: they are the same, or that one is
below. The root itself is never taken out. -/
def TakesOut (target id : Nat) (r : Recorder) : Prop :=
  r.root?.map Frame.id ≠ some target ∧
    ∃ v ∈ Frame.openVisits r.openFrames, v.entry.id = id ∧ v.outside target = false

instance (target id : Nat) (r : Recorder) : Decidable (r.TakesOut target id) :=
  inferInstanceAs (Decidable (_ ≠ _ ∧ ∃ v ∈ Frame.openVisits r.openFrames, _ ∧ _))

/-- The endpoint of a trace in progress, its frame and its mark. -/
structure Named (taken : Nat → Prop) (found : Endpoint) (r : Recorder) : Prop where
  endpoint : r.endpoint = some found
  bears : ∀ e ∈ Frame.entriesIn r.openFrames, e.Bears found.frame
  known : found.frame ≤ r.lastId
  present : found.frame ∈ Frame.idsIn r.openFrames ↔ ¬ taken found.frame
  taken : ∀ id, taken id → id ≤ r.lastId

section
variable {now : Nat} {clock : Clock} {op : Operation} {candidate : Option Endpoint}
  {found : Endpoint} {taken : Nat → Prop} {r r' : Recorder}

/-- Honest analyzers locate an endpoint at the new frame. -/
theorem Enters.frame (enters : Enters clock op (some found) r r')
    (honest : ∀ analyzer ∈ r.analyzers, analyzer.Honest) : found.frame = r.lastId + 1 := by
  have best := AnalyzerRegister.locate_done enters.located
  exact AnalyzerRegister.frame_of_mem_candidates honest (Endpoint.firstBest_of_bestOf best.symm).mem

/-- The mark is put on a frame entered while all others are without. -/
theorem Named.moved {e : FrameEntry} {outer : List Frame}
    (endpoint : r.endpoint = some found) (frames : r.openFrames = .node e [] :: outer)
    (here : e.id = found.frame) (last : r.lastId = found.frame) (marked : e.op.isEndpointSource)
    (spares : e.op.Spares Operation.endpointKey)
    (others : ∀ x ∈ Frame.entriesIn outer, x.op.isEndpointSource = false ∧ x.id < found.frame ∧
      x.op.Spares Operation.endpointKey)
    (before : ∀ id, taken id → id < found.frame) : Named taken found r := by
  refine ⟨endpoint, ?_, Nat.le_of_eq last.symm, ?_, ?_⟩
  · rw [frames, Frame.entriesIn_cons, Frame.entriesIn_nil, List.nil_append, List.forall_mem_cons]
    refine ⟨⟨⟨fun _ => here, fun _ => marked⟩, spares⟩, ?_⟩
    intro x member
    obtain ⟨unmarked, less, spared⟩ := others x member
    exact ⟨by simp [unmarked, Nat.ne_of_lt less], spared⟩
  · rw [frames, Frame.idsIn_cons, here]
    simp only [List.mem_cons, true_or, true_iff]
    exact fun gone => Nat.lt_irrefl _ (before _ gone)
  · intro id gone
    rw [last]
    exact Nat.le_of_lt (before id gone)

/-- The first frame of a trace is that of its endpoint. -/
theorem named_root (enters : Enters clock op candidate r r')
    (honest : ∀ analyzer ∈ r.analyzers, analyzer.Honest) (idle : r.openFrames = [])
    (free : r.endpoint = none) (spares : op.Spares Operation.endpointKey)
    (untaken : ∀ id, ¬ taken id) : ∃ found, Named taken found r' := by
  obtain ⟨found, rfl⟩ := Option.isSome_iff_exists.mp (enters.isSome_of_idle idle)
  have number := enters.frame honest
  have chosen := enters.endpoint
  rw [free, Endpoint.prefer_none_left] at chosen
  cases enters.marks with
  | kept same =>
      rw [same, free] at chosen
      cases chosen
  | moved isFound endpoint frames =>
      cases isFound
      have bare : r.unmark = r := by
        unfold unmark
        rw [free]
      rw [bare, idle] at frames
      refine ⟨found, .moved endpoint frames number.symm (enters.lastId.trans number.symm)
        (Operation.isEndpointSource_markEndpoint true op) (spares.markEndpoint) nofun ?_⟩
      exact fun id gone => absurd gone (untaken id)

/-- Without its mark no frame has one. -/
theorem Named.unmark (h : Named taken found r) (timely : Timely now r) :
    ∀ x ∈ Frame.entriesIn r.unmark.openFrames, x.op.isEndpointSource = false ∧
      x.id ≤ r.lastId ∧ x.op.Spares Operation.endpointKey := by
  have frames : r.unmark.openFrames =
      (Frame.adjustIn found.frame (Operation.markEndpoint false) r.openFrames).1 := by
    unfold Recorder.unmark
    rw [h.endpoint]
    rfl
  rw [frames, (Frame.entriesIn_adjustIn timely.nodup).1, List.forall_mem_map]
  intro e member
  obtain ⟨marked, spares⟩ := h.bears e member
  have below := timely.le_lastId (List.mem_map_of_mem member)
  unfold FrameEntry.adjusted
  split
  · exact ⟨Operation.isEndpointSource_markEndpoint false e.op, below, spares.markEndpoint⟩
  · rename_i other
    exact ⟨Bool.eq_false_iff.mpr fun on => other (marked.mp on), below, spares⟩

theorem Named.enters (h : Named taken found r) (timely : Timely now r)
    (enters : Enters clock op candidate r r')
    (honest : ∀ analyzer ∈ r.analyzers, analyzer.Honest) (unmarked : op.isEndpointSource = false)
    (spares : op.Spares Operation.endpointKey) : ∃ found, Named taken found r' := by
  cases enters.marks with
  | kept same frames =>
      refine ⟨found, same.trans h.endpoint, ?_, ?_, ?_, ?_⟩
      · rw [frames, Frame.entriesIn_cons, Frame.entriesIn_nil, List.nil_append,
          List.forall_mem_cons]
        have apart : r.lastId + 1 ≠ found.frame := fun same =>
          Nat.not_succ_le_self _ (same ▸ h.known)
        exact ⟨⟨by simp [FrameEntry.opened, unmarked, apart], spares⟩, h.bears⟩
      · rw [enters.lastId]
        exact Nat.le_succ_of_le h.known
      · have apart : found.frame ≠ r.lastId + 1 := fun same =>
          Nat.not_succ_le_self _ (same ▸ h.known)
        rw [enters.idsIn, List.mem_cons, ← h.present]
        simp [apart]
      · intro id gone
        rw [enters.lastId]
        exact Nat.le_succ_of_le (h.taken id gone)
  | @moved next isFound endpoint frames =>
      subst isFound
      have number := enters.frame honest
      refine ⟨next, .moved endpoint frames number.symm (enters.lastId.trans number.symm)
        (Operation.isEndpointSource_markEndpoint true op) (spares.markEndpoint) ?_ ?_⟩
      -- The old mark is gone from all others, and their numbers are less than the new one.
      · intro x member
        obtain ⟨bare, below, spared⟩ := h.unmark timely x member
        rw [number]
        exact ⟨bare, Nat.lt_succ_of_le below, spared⟩
      · intro id gone
        rw [number]
        exact Nat.lt_succ_of_le (h.taken id gone)

/-- Only the operation on top changes, and its mark does not. -/
theorem Named.withOperation {f : Operation → Operation} (h : Named taken found r)
    (spared : ∀ op, op.Spares Operation.endpointKey →
      (f op).isEndpointSource = op.isEndpointSource ∧ (f op).Spares Operation.endpointKey) :
    Named taken found (r.withOperation f) := by
  have changed := changes f r
  generalize r.withOperation f = r' at changed
  cases changed with
  | idle => exact h
  | top frames =>
      obtain ⟨endpoint, bears, known, present, taken⟩ := h
      rw [frames, Frame.entriesIn_cons, List.forall_mem_cons] at bears
      rw [frames, Frame.idsIn_cons] at present
      obtain ⟨⟨marked, spares⟩, others⟩ := bears
      obtain ⟨same, spares⟩ := spared _ spares
      refine ⟨endpoint, ?_, known, ?_, taken⟩
      · rw [Frame.entriesIn_cons, List.forall_mem_cons]
        exact ⟨⟨by rw [same]; exact marked, spares⟩, others⟩
      · rwa [Frame.idsIn_cons]

theorem bears_left {e : FrameEntry} {frame : Nat} (h : e.Bears frame) :
    (e.left clock).Bears frame := by
  have kept : (e.left clock).op.isEndpointSource = e.op.isEndpointSource :=
    Operation.isEndpointSource_congr h.spares.finalize.1
  refine ⟨?_, h.spares.finalize.2⟩
  rw [kept]
  exact h.marked

theorem Named.exit {left : Option Exited} (h : Named taken found r)
    (done : (r.exit clock).2.2 = .done left) (building : (r.exit clock).2.1.isBuilding) :
    Named taken found (r.exit clock).2.1 := by
  have exited := exits clock r
  generalize r.exit clock = result at exited done building
  cases exited with
  | idle => exact h
  | crash => cases done
  | root => cases building
  | @inner e parent cs siblings outer frames =>
      obtain ⟨endpoint, bears, known, present, taken⟩ := h
      have ids : ∀ id, id ∈ Frame.idsIn (.node parent (siblings ++ [.node (e.left clock) cs]) ::
          outer) ↔ id ∈ Frame.idsIn r.openFrames := by
        intro id
        rw [frames]
        exact Frame.mem_idsIn_close cs siblings outer rfl
      rw [frames] at bears
      simp only [Frame.entriesIn_cons, List.forall_mem_cons, List.forall_mem_append] at bears
      obtain ⟨here, below, above, before, others⟩ := bears
      refine ⟨endpoint, ?_, known, (ids _).trans present, taken⟩
      simp only [Frame.entriesIn_cons, Frame.entriesIn_append, Frame.entriesIn_nil,
        List.append_nil, List.forall_mem_cons, List.forall_mem_append]
      exact ⟨above, ⟨before, bears_left here, below⟩, others⟩

end

/-- The endpoint of a completed trace, its frame and its mark: the mark is on that frame and on no
other, and the frame is there unless it was taken out. -/
structure Names (taken : Nat → Prop) (trace : CompletedTrace) (found : Endpoint) : Prop where
  endpoint : trace.endpoint = some found
  marked : ∀ e ∈ trace.root.entries, e.op.isEndpointSource ↔ e.id = found.frame
  present : (∃ e ∈ trace.root.entries, e.id = found.frame) ↔ ¬ taken found.frame

section
variable {now : Nat} {clock : Clock} {found : Endpoint} {taken : Nat → Prop} {r : Recorder}
  {trace : CompletedTrace}

theorem Named.completed {info : FrameEntry} (h : Named taken found r)
    (completed : (r.exit clock).2.2 = .done (some ⟨info, some trace⟩)) :
    Names taken trace found := by
  have exited := exits clock r
  generalize r.exit clock = result at exited completed
  cases exited with
  | @root e cs frames finalized =>
      cases completed
      obtain ⟨endpoint, bears, known, present, taken⟩ := h
      rw [frames, Frame.entriesIn_cons, List.forall_mem_cons] at bears
      obtain ⟨here, below⟩ := bears
      have same : Frame.idsIn [.node (e.left clock) cs] = Frame.idsIn r.openFrames := by
        rw [frames, Frame.idsIn_cons, Frame.idsIn_cons]
        rfl
      refine ⟨endpoint, ?_, ?_⟩
      · rw [Frame.entries_eq, Frame.entriesIn_cons, List.forall_mem_cons]
        exact ⟨(bears_left here).marked, fun x member => (below x member).marked⟩
      · rw [← present, ← same, Frame.idsIn, List.mem_map, Frame.entries_eq]
  | _ => cases completed

/-- After the row of exits of an unwinding as well. -/
theorem Named.exitMany {n : Nat} (h : Named taken found r)
    (completed : (Recorder.exitMany n clock r).2.2 = .done (some trace)) :
    Names taken trace found := by
  refine exitMany_yields (P := fun _ later => later.isBuilding → Named taken found later)
    (Q := fun trace => Names taken trace found) ?_ ?_ (fun _ => h) completed
  · intro clock later left kept done building
    exact (kept (gathered_exit building).1).exit done building
  · intro clock later info trace kept completed
    exact (kept (gathered_exited completed).1).completed completed

theorem Named.markOverdue (h : Named taken found r) : Named taken found r.markOverdue := by
  have apart : some Operation.overdueKey ≠ some Operation.endpointKey := by decide
  have changed : Named taken found
      (r.withOperation (Operation.put Operation.overdueKey (.bool true))) :=
    h.withOperation fun op spares =>
      ⟨Operation.isEndpointSource_congr (Operation.find?_put_of_ne apart _ op), spares⟩
  obtain ⟨-, bears, -, present, -⟩ := changed
  rw [← openFrames_markOverdue] at bears present
  exact ⟨h.endpoint, bears, h.known, present, h.taken⟩

/-- Only the open frames, the endpoint and the last number matter. -/
theorem Named.congr {taken' : Nat → Prop} {r' : Recorder} (h : Named taken found r)
    (frames : r'.openFrames = r.openFrames) (endpoint : r'.endpoint = r.endpoint)
    (last : r'.lastId = r.lastId) (same : ∀ id, taken' id ↔ taken id) : Named taken' found r' := by
  refine ⟨endpoint.trans h.endpoint, ?_, ?_, ?_, ?_⟩
  · rw [frames]
    exact h.bears
  · rw [last]
    exact h.known
  · rw [frames, same]
    exact h.present
  · intro id gone
    rw [last]
    exact h.taken id ((same id).mp gone)

theorem Named.discard (h : Named taken found r) (timely : Timely now r) (target : Nat) :
    Named (fun id => taken id ∨ ((r.discard target).1 = true ∧ r.TakesOut target id)) found
      (r.discard target).2 := by
  have discarded := discards target r
  generalize r.discard target = result at discarded
  cases discarded with
  | refused => exact h.congr rfl rfl rfl fun id => by simp
  | root isRoot here =>
      have stays (id : Nat) : ¬ r.TakesOut target id := by
        rintro ⟨other, -⟩
        rw [isRoot, Option.map_some, here] at other
        exact other rfl
      exact h.congr rfl rfl rfl fun id => by simp [stays]
  | closed isRoot notRoot closed isTarget clean pruned =>
      have takesOut (id : Nat) : r.TakesOut target id ↔
          ∃ v ∈ Frame.openVisits r.openFrames, v.entry.id = id ∧ v.outside target = false := by
        refine and_iff_right ?_
        rw [isRoot]
        exact fun same => notRoot (Option.some.inj same)
      rw [Frame.prune_eq_withoutIn timely.nodup pruned]
      refine ⟨h.endpoint, ?_, h.known, ?_, ?_⟩
      · intro e member
        exact h.bears e ((Frame.entriesIn_withoutIn_sublist target _).subset member)
      · rw [Frame.mem_idsIn_withoutIn timely.nodup closed, ← takesOut, h.present]
        simp
      · rintro id (before | ⟨-, gone⟩)
        · exact h.taken id before
        · obtain ⟨v, inside, rfl, -⟩ := (takesOut id).mp gone
          refine timely.counted _ ?_
          rw [Frame.idsIn, ← Frame.map_entry_openVisits, List.map_map]
          exact List.mem_map_of_mem inside

end

end Recorder
end SpanCapture
