import SpanCapture.Proofs.Recorder.EndpointFrame

/-! The endpoint mark in every state a recorder can come to, crashes included. It is on the frame
that the endpoint names or nowhere: an entering takes it from the one frame that has it, and all
other calls leave marks alone or take frames away. Where nothing crashed and nothing was discarded
it is there whenever a frame is open. -/
namespace SpanCapture

/-- The mark is on an entry only if the endpoint names it, and no pending script touches it. -/
structure FrameEntry.Truthful (endpoint : Option Endpoint) (e : FrameEntry) : Prop where
  named : e.op.isEndpointSource → endpoint.map Endpoint.frame = some e.id
  spares : e.op.Spares Operation.endpointKey

theorem FrameEntry.Truthful.left {endpoint : Option Endpoint} {e : FrameEntry}
    (h : e.Truthful endpoint) (clock : Clock) : (e.left clock).Truthful endpoint := by
  have kept : (e.left clock).op.isEndpointSource = e.op.isEndpointSource :=
    Operation.isEndpointSource_congr h.spares.finalize.1
  refine ⟨?_, h.spares.finalize.2⟩
  rw [kept]
  exact h.named

namespace Recorder

/-- No frame carries the mark but the one the endpoint names. -/
def Truthful (r : Recorder) : Prop := ∀ e ∈ Frame.entriesIn r.openFrames, e.Truthful r.endpoint

section
variable {now : Nat} {clock : Clock} {op : Operation} {candidate : Option Endpoint}
  {r r' : Recorder}

theorem Truthful.idle (h : r.openFrames = []) : r.Truthful := by
  rw [Truthful, h]
  exact nofun

/-- Only the open frames and the endpoint matter. -/
theorem Truthful.congr (h : r.Truthful) (frames : r'.openFrames = r.openFrames)
    (endpoint : r'.endpoint = r.endpoint) : r'.Truthful := by
  rw [Truthful, frames, endpoint]
  exact h

/-- Without the mark of the endpoint there is no mark. -/
theorem Truthful.unmark (h : r.Truthful) (timely : Timely now r) :
    ∀ e ∈ Frame.entriesIn r.unmark.openFrames,
      e.op.isEndpointSource = false ∧ e.op.Spares Operation.endpointKey := by
  cases isNamed : r.endpoint with
  | none =>
      rw [Recorder.unmark, isNamed]
      intro e member
      obtain ⟨named, spares⟩ := h e member
      rw [isNamed] at named
      refine ⟨Bool.eq_false_iff.mpr fun marked => ?_, spares⟩
      cases named marked
  | some previous =>
      rw [Recorder.unmark, isNamed]
      change ∀ e ∈ Frame.entriesIn (Frame.adjustIn _ _ r.openFrames).1, _
      rw [(Frame.entriesIn_adjustIn timely.nodup).1, List.forall_mem_map]
      intro e member
      obtain ⟨named, spares⟩ := h e member
      rw [isNamed] at named
      unfold FrameEntry.adjusted
      split
      · exact ⟨Operation.isEndpointSource_markEndpoint false e.op, spares.markEndpoint⟩
      · rename_i other
        refine ⟨Bool.eq_false_iff.mpr fun marked => ?_, spares⟩
        exact other (Option.some.inj (named marked)).symm

theorem Truthful.enters (h : r.Truthful) (timely : Timely now r)
    (enters : Enters clock op candidate r r')
    (honest : ∀ analyzer ∈ r.analyzers, analyzer.Honest) (unmarked : op.isEndpointSource = false)
    (spares : op.Spares Operation.endpointKey) : r'.Truthful := by
  cases enters.marks with
  | kept same frames =>
      rw [Truthful, frames, same, Frame.entriesIn_cons, Frame.entriesIn_nil, List.nil_append,
        List.forall_mem_cons]
      refine ⟨⟨fun marked => ?_, spares⟩, h⟩
      change op.isEndpointSource = true at marked
      rw [unmarked] at marked
      cases marked
  | @moved found isFound endpoint frames =>
      subst isFound
      rw [Truthful, frames, endpoint, Frame.entriesIn_cons, Frame.entriesIn_nil, List.nil_append,
        List.forall_mem_cons]
      refine ⟨⟨fun _ => congrArg some (enters.frame honest), spares.markEndpoint⟩, ?_⟩
      intro e member
      obtain ⟨bare, spared⟩ := h.unmark timely e member
      refine ⟨fun marked => ?_, spared⟩
      rw [bare] at marked
      cases marked

theorem Timely.ready (h : Timely now r) : Timely now r.ready := by
  unfold Recorder.ready
  split
  · exact .idle rfl
  · exact h

theorem Truthful.ready (h : r.Truthful) : r.ready.Truthful := by
  unfold Recorder.ready
  split
  · exact .idle rfl
  · exact h

theorem Truthful.enter (h : r.Truthful) (timely : Timely clock.now r)
    (honest : ∀ analyzer ∈ r.analyzers, analyzer.Honest) (unmarked : op.isEndpointSource = false)
    (spares : op.Spares Operation.endpointKey) : (r.enter clock op).2.Truthful := by
  cases answered : (r.enter clock op).1 with
  | crashed message =>
      rw [enter_crashed answered]
      exact h.ready.congr rfl rfl
  | done number =>
      obtain ⟨-, candidate, enters⟩ := enter_enters (Prod.ext answered rfl)
      rw [← analyzers_ready] at honest
      exact h.ready.enters timely.ready enters honest unmarked spares

/-- Leaving takes a frame off, with all below it if a script crashes, and closes it at most. -/
theorem Truthful.exit (h : r.Truthful) : (r.exit clock).2.1.Truthful := by
  have left := exits clock r
  generalize r.exit clock = exited at left
  cases left with
  | idle => exact h
  | @crash e cs outer message frames =>
      intro x member
      refine h x ?_
      rw [frames, Frame.entriesIn_cons]
      exact List.mem_cons_of_mem _ (List.mem_append_right _ member)
  | root => exact .idle rfl
  | @inner e parent cs siblings outer frames =>
      rw [Truthful, frames] at h
      simp only [Frame.entriesIn_cons, List.forall_mem_cons, List.forall_mem_append] at h
      obtain ⟨here, below, above, before, others⟩ := h
      simp only [Truthful, Frame.entriesIn_cons, Frame.entriesIn_append, Frame.entriesIn_nil,
        List.append_nil, List.forall_mem_cons, List.forall_mem_append]
      exact ⟨above, ⟨before, here.left clock, below⟩, others⟩

theorem Truthful.withOperation {f : Operation → Operation} (h : r.Truthful)
    (spared : ∀ op, op.Spares Operation.endpointKey →
      (f op).isEndpointSource = op.isEndpointSource ∧ (f op).Spares Operation.endpointKey) :
    (r.withOperation f).Truthful := by
  have changed := changes f r
  generalize r.withOperation f = r' at changed
  cases changed with
  | idle => exact h
  | top frames =>
      rw [Truthful, frames, Frame.entriesIn_cons, List.forall_mem_cons] at h
      obtain ⟨⟨named, spares⟩, others⟩ := h
      obtain ⟨same, spares⟩ := spared _ spares
      rw [Truthful, Frame.entriesIn_cons, List.forall_mem_cons]
      refine ⟨⟨?_, spares⟩, others⟩
      rw [same]
      exact named

theorem Truthful.markOverdue (h : r.Truthful) : r.markOverdue.Truthful := by
  have apart : some Operation.overdueKey ≠ some Operation.endpointKey := by decide
  have changed : (r.withOperation (Operation.put Operation.overdueKey (.bool true))).Truthful :=
    h.withOperation fun op spares =>
      ⟨Operation.isEndpointSource_congr (Operation.find?_put_of_ne apart _ op), spares⟩
  exact changed.congr (openFrames_markOverdue r) (endpoint_withOperation _ r).symm

theorem Truthful.discard (h : r.Truthful) (timely : Timely now r) (target : Nat) :
    (r.discard target).2.Truthful := by
  have discarded := discards target r
  generalize r.discard target = result at discarded
  cases discarded with
  | refused => exact h
  | root => exact h.congr rfl rfl
  | closed isRoot notRoot closed found clean pruned =>
      rw [Frame.prune_eq_withoutIn timely.nodup pruned]
      intro e member
      exact h e ((Frame.entriesIn_withoutIn_sublist target _).subset member)

/-- Every call that leaves the mark alone keeps it on the frame of the endpoint, however the call
ends. -/
theorem Truthful.step {s : Session} {call : Call} (h : s.recorder.Truthful)
    (timely : Timely s.clock.now s.recorder)
    (honest : ∀ analyzer ∈ s.recorder.analyzers, analyzer.Honest) (spared : call.SparesMark) :
    (Recorder.step s call).2.recorder.Truthful := by
  cases call with
  | enter op => exact h.enter timely honest spared.1 spared.2
  | exit => exact h.exit
  | discard id => exact h.discard timely id
  | dump => exact .idle rfl
  | setHintAtRoot key value =>
      simp only [Recorder.step, setHintAtRoot]
      split <;> exact h.congr rfl rfl
  | change f => exact h.withOperation fun op spares => ⟨(spared op).1, (spared op).2 spares⟩
  | act action =>
      change (s.recorder.act s.clock action).2.1.Truthful
      rw [act_eq_withOperation]
      refine h.withOperation fun op spares => ?_
      obtain ⟨same, spares⟩ := spares.act spared
      exact ⟨Operation.isEndpointSource_congr same, spares⟩
  | unwind maxAge now =>
      exact unwind_keeps (P := fun _ r => r.Truthful) (fun _ _ h => h.markOverdue)
        (fun _ _ h => h.exit) maxAge now h
  | _ => exact h.congr rfl rfl

/-- How many of the frames held, open or closed, carry the mark. -/
def marks (r : Recorder) : Nat :=
  (Frame.entriesIn r.openFrames).countP fun e => e.op.isEndpointSource

/-- Numbers are unique, so no two frames are the one that the endpoint names. -/
theorem Truthful.marks_le_one (h : r.Truthful) (timely : Timely now r) : r.marks ≤ 1 := by
  rw [marks, List.countP_eq_length_filter]
  have unique := timely.nodup.sublist
    ((List.filter_sublist (p := fun e : FrameEntry => e.op.isEndpointSource)).map FrameEntry.id)
  have named : ∀ e ∈ (Frame.entriesIn r.openFrames).filter fun e => e.op.isEndpointSource,
      r.endpoint.map Endpoint.frame = some e.id := by
    intro e member
    obtain ⟨inside, marked⟩ := List.mem_filter.mp member
    exact (h e inside).named marked
  generalize (Frame.entriesIn r.openFrames).filter _ = marked at unique named ⊢
  match marked with
  | [] => exact Nat.zero_le 1
  | [_] => exact Nat.le_refl 1
  | e :: x :: rest =>
      obtain ⟨here, next, -⟩ : _ ∧ _ ∧ ∀ e ∈ rest, _ := by
        simpa only [List.forall_mem_cons] using named
      have same : e.id = x.id := Option.some.inj (here.symm.trans next)
      rw [List.map_cons, List.map_cons, List.nodup_cons, same] at unique
      exact absurd List.mem_cons_self unique.1

variable {first s : Session} {history : List (Moment Session Call (Outcome Answer))}

/-- A run without crashes keeps track of the frame of the endpoint. -/
theorem tracked_run (fresh : first.recorder.reset = first.recorder)
    (honest : ∀ analyzer ∈ first.recorder.analyzers, analyzer.Honest)
    (run : Run Recorder.step MarkSpared first history s) :
    Tracked first.recorder.analyzers (Recorder.course history) s := by
  have idle := openFrames_of_reset fresh
  have start : Tracked first.recorder.analyzers [] first :=
    ⟨.start fresh, .idle idle, fun building => by simp [isBuilding, idle] at building⟩
  exact run.book_invariant proceed [] start fun _ _ _ h spared => h.step honest spared

/-- Where nothing was discarded the frame of the endpoint is there. -/
theorem Tracked.marks_pos {register : AnalyzerRegister} (h : Tracked register (course history) s)
    (kept : ∀ m ∈ history, discarded? m = none) (building : s.recorder.isBuilding) :
    0 < s.recorder.marks := by
  obtain ⟨found, named⟩ := h.named building
  have untaken : ¬ Taken (course history) found.frame := by
    rintro ⟨m, member, gone⟩
    rw [discardsFrame, kept m (mem_of_mem_course member)] at gone
    cases gone
  obtain ⟨e, member, here⟩ := List.mem_map.mp (named.present.mpr untaken)
  exact List.countP_pos_iff.mpr ⟨e, member, (named.bears e member).marked.mpr here⟩

/-- Whatever is called, and however often a script or an analyzer crashes, at most one of the frames
held carries the endpoint mark, and its number is that of the endpoint. As long as nothing crashed
and nothing was discarded, exactly one carries it whenever a frame is open. Analyzers report the
frame they were asked about, and nobody else touches the mark. -/
theorem marks_unique_and_truthful (fresh : first.recorder.reset = first.recorder)
    (honest : ∀ analyzer ∈ first.recorder.analyzers, analyzer.Honest)
    (run : Run Recorder.step (fun m => m.call.SparesMark) first history s) :
    s.recorder.marks ≤ 1 ∧
      (∀ e ∈ Frame.entriesIn s.recorder.openFrames, e.op.isEndpointSource →
        ∃ found, s.recorder.endpoint = some found ∧ e.id = found.frame) ∧
      ((∀ m ∈ history, m.answer.isDone ∧ discarded? m = none) → s.recorder.isBuilding →
        s.recorder.marks = 1) := by
  have idle := openFrames_of_reset fresh
  obtain ⟨timely, truthful, -⟩ : Timely s.clock.now s.recorder ∧ s.recorder.Truthful ∧
      s.recorder.analyzers = first.recorder.analyzers := by
    refine run.invariant (P := fun s : Session => Timely s.clock.now s.recorder ∧
      s.recorder.Truthful ∧ s.recorder.analyzers = first.recorder.analyzers)
      ⟨.idle idle, .idle idle, rfl⟩ ?_
    intro s call ⟨timely, truthful, same⟩ spared
    have made : (Recorder.step s call).2.recorder.analyzers = s.recorder.analyzers :=
      congrArg (·.2.1) (setup_step s call)
    refine ⟨(timely.step call).2, truthful.step timely ?_ spared, made.trans same⟩
    rwa [same]
  refine ⟨truthful.marks_le_one timely, ?_, ?_⟩
  · intro e member marked
    obtain ⟨found, endpoint, frame⟩ := Option.map_eq_some_iff.mp ((truthful e member).named marked)
    exact ⟨found, endpoint, frame.symm⟩
  · intro undisturbed building
    have calm : Run Recorder.step MarkSpared first history s :=
      run.restrict fun m member spared => ⟨(undisturbed m member).1, spared⟩
    have kept : ∀ m ∈ history, discarded? m = none := fun m member => (undisturbed m member).2
    have some := (tracked_run fresh honest calm).marks_pos kept building
    have one := truthful.marks_le_one timely
    omega

/-- A servlet whose script crashes as it is left, so that its frame and the mark are lost. -/
def servletLost : List Call :=
  [.enter { kind := "http", label := "root" },
    .enter { kind := "servlet", label := "page", pending := [[.crash "boom"]] }, .exit]

def servletLeft : List Call :=
  [.enter { kind := "http", label := "root" }, .enter { kind := "servlet", label := "page" }, .exit,
    .enter { kind := "db", label := "query" }]

theorem mark_of_lost_and_left_servlet :
    (∀ analyzer ∈ Session.servlets.recorder.analyzers, analyzer.Honest) ∧
      (∀ call ∈ servletLost ++ servletLeft, call.SparesMark) ∧
      (after step Session.servlets servletLost).recorder.isBuilding ∧
      (after step Session.servlets servletLost).recorder.marks ≤ 1 ∧
      (∀ m ∈ moments step Session.servlets servletLeft, m.answer.isDone ∧ discarded? m = none) ∧
      (after step Session.servlets servletLeft).recorder.isBuilding ∧
      (after step Session.servlets servletLeft).recorder.marks = 1 := by
  have honest : ∀ analyzer ∈ Session.servlets.recorder.analyzers, analyzer.Honest := by
    intro analyzer member
    rw [List.mem_singleton.mp member]
    exact Analyzer.honest_typed _ _ _
  have crashing : Operation.Spares Operation.endpointKey
      { kind := "servlet", label := "page", pending := [[.crash "boom"]] } := by
    intro script member
    rw [List.mem_singleton.mp member]
    decide
  have lost : ∀ call ∈ servletLost, call.SparesMark := by
    simp only [servletLost, List.forall_mem_cons]
    exact ⟨⟨rfl, nofun⟩, ⟨rfl, crashing⟩, trivial, nofun⟩
  have left : ∀ call ∈ servletLeft, call.SparesMark := by
    simp only [servletLeft, List.forall_mem_cons]
    exact ⟨⟨rfl, nofun⟩, ⟨rfl, nofun⟩, trivial, ⟨rfl, nofun⟩, nofun⟩
  have runs {calls : List Call} (spared : ∀ call ∈ calls, call.SparesMark) :
      Run step (fun m => m.call.SparesMark) Session.servlets (moments step Session.servlets calls)
        (after step Session.servlets calls) :=
    .of_moments fun m member => spared m.call (call_mem_of_mem_moments member)
  have undisturbed : ∀ m ∈ moments step Session.servlets servletLeft,
      m.answer.isDone ∧ discarded? m = none := by
    decide +kernel
  have inside : (after step Session.servlets servletLeft).recorder.isBuilding := by decide +kernel
  exact ⟨honest, List.forall_mem_append.mpr ⟨lost, left⟩, by decide +kernel,
    (marks_unique_and_truthful rfl honest (runs lost)).1, undisturbed, inside,
    (marks_unique_and_truthful rfl honest (runs left)).2.2 undisturbed inside⟩

end

end Recorder
end SpanCapture
