import SpanCapture.Proofs.Endpoint.Ties
import SpanCapture.Proofs.Recorder.EndpointMark

/-! Two recorders whose analyzers were registered in different orders. A tie within one frame goes
to whoever was registered first, so the names of the endpoints may differ; but what decides later
on is the score of an endpoint and where its mark is, and these two are the same. So both recorders
go on in step, whatever is called, and complete the same trees with the same marks. -/
namespace SpanCapture
namespace Recorder

def replaced (register : AnalyzerRegister) (endpoint : Option Endpoint) (r : Recorder) : Recorder :=
  { r with analyzers := register, endpoint }

/-- Recorders that differ in the order of their analyzers, and in what the endpoint is called. -/
inductive Alike : Recorder → Recorder → Prop
  | intro {r : Recorder} {register : AnalyzerRegister} {endpoint : Option Endpoint} :
      r.analyzers.Perm register → Endpoint.Ties r.endpoint endpoint →
      Alike r (r.replaced register endpoint)

/-- Completed traces that differ at most in what the endpoint is called: the frame it names is the
same, and so are the trees with their marks. -/
structure SameChoice (a b : CompletedTrace) : Prop where
  root : a.root = b.root
  score : a.endpoint.map Endpoint.score = b.endpoint.map Endpoint.score
  frame : a.endpoint.map Endpoint.frame = b.endpoint.map Endpoint.frame

section
variable {register : AnalyzerRegister} {endpoint : Option Endpoint} {clock : Clock}
  {op : Operation} {r a b : Recorder}

@[simp] theorem openFrames_replaced (r : Recorder) :
    (r.replaced register endpoint).openFrames = r.openFrames := rfl

theorem removeClosed_replaced (parent id : Nat) (r : Recorder) :
    (r.replaced register endpoint).removeClosed parent id =
      ((r.removeClosed parent id).1, (r.removeClosed parent id).2.replaced register endpoint) := by
  rw [removeClosed, removeClosed, openFrames_replaced]
  rcases Frame.pruneIn? parent id r.openFrames with _ | ⟨removed, frames⟩ <;> rfl

theorem discard_replaced (id : Nat) (r : Recorder) :
    (r.replaced register endpoint).discard id =
      ((r.discard id).1, (r.discard id).2.replaced register endpoint) := by
  have root : (r.replaced register endpoint).root? = r.root? := rfl
  have found : (r.replaced register endpoint).find? id = r.find? id := rfl
  simp only [discard, root, found, openFrames_replaced, removeClosed_replaced]
  cases r.root? with
  | none => rfl
  | some root =>
      dsimp only
      split
      · rfl
      · split
        · rfl
        · cases r.find? id with
          | none => rfl
          | some target =>
              dsimp only
              split
              · rfl
              · cases target.entry.parent <;> rfl

theorem push_replaced (e : FrameEntry) (r : Recorder) :
    (r.replaced register endpoint).push e = (r.push e).replaced register endpoint := by
  change (if r.limits.maxFrames < r.frameCount ∧ (!r.isAborted) = true then _ else _) =
    replaced _ _ (if r.limits.maxFrames < r.frameCount ∧ (!r.isAborted) = true then _ else _)
  split <;> rfl

theorem Alike.push {x y : FrameEntry × Recorder} (h : Alike x.2 y.2) (same : x.1 = y.1) :
    Alike (x.2.push x.1) (y.2.push y.1) := by
  rw [same]
  generalize x.2 = a, y.2 = b at h
  cases h with
  | intro perm ties =>
      rw [push_replaced, push_eq]
      exact .intro perm ties

theorem Alike.countEntry (h : Alike a b) (clock : Clock) :
    Alike (a.countEntry clock) (b.countEntry clock) := by
  cases h with
  | intro perm ties => exact .intro (r := a.countEntry clock) perm ties

/-- Endpoints of one frame have the same mark taken away. -/
theorem unmark_replaced (ties : Endpoint.Ties r.endpoint endpoint) :
    (r.replaced register endpoint).unmark = r.unmark.replaced register endpoint := by
  have named : (r.replaced register endpoint).endpoint = endpoint := rfl
  rw [unmark, unmark, named]
  rcases ties.cases with ⟨old, rfl⟩ | ⟨x, y, old, rfl, -, frame⟩
  · rw [old]
  · rw [old]
    dsimp only
    rw [frame]
    rfl

theorem Alike.ready (h : Alike a b) : Alike a.ready b.ready := by
  cases h with
  | @intro register endpoint perm ties =>
    have aborted : (a.replaced register endpoint).isAborted = a.isAborted := rfl
    unfold Recorder.ready
    rw [aborted]
    split
    · exact .intro (r := a.resetAborted) perm rfl
    · exact .intro perm ties

/-- Candidates of the same rank win on both sides or on none. -/
theorem Alike.consider {c d : Option Endpoint} (h : Alike a b) (ties : Endpoint.Ties c d)
    (e : FrameEntry) :
    (a.consider c e).1 = (b.consider d e).1 ∧ Alike (a.consider c e).2 (b.consider d e).2 := by
  rcases ties.cases with ⟨rfl, rfl⟩ | ⟨x, y, rfl, rfl, score, -⟩
  · exact ⟨rfl, h⟩
  · cases h with
    | @intro register endpoint perm current =>
        have better : y.beats (a.replaced register endpoint).endpoint = x.beats a.endpoint :=
          (current.beats score).symm
        simp only [Recorder.consider, better]
        split
        · refine ⟨rfl, ?_⟩
          rw [unmark_replaced current, unmark_eq]
          exact .intro (r := { a with openFrames := a.unmark.openFrames, endpoint := some x }) perm
            ties
        · exact ⟨rfl, .intro perm current⟩

theorem enterFresh_eq (clock : Clock) (op : Operation) (r : Recorder) :
    r.enterFresh clock op =
      match r.analyzers.locate op (r.lastId + 1) (r.depth + 1) r.openKinds with
      | .crashed message => (.crashed message, r.countEntry clock)
      | .done candidate =>
        let considered := (r.countEntry clock).consider candidate
          (.opened (r.lastId + 1) (r.top?.map Frame.id) op clock.now)
        (.done considered.1.id, considered.2.push considered.1) :=
  rfl

theorem Alike.enterFresh (h : Alike a b) (honest : ∀ analyzer ∈ a.analyzers, analyzer.Honest)
    (clock : Clock) (op : Operation) :
    Outcome.Both Eq (a.enterFresh clock op).1 (b.enterFresh clock op).1 ∧
      Alike (a.enterFresh clock op).2 (b.enterFresh clock op).2 := by
  have counted := h.countEntry clock
  cases h with
  | @intro register endpoint perm ties =>
      have located : Outcome.Both Endpoint.Ties
          (a.analyzers.locate op (a.lastId + 1) (a.depth + 1) a.openKinds)
          ((a.replaced register endpoint).analyzers.locate op
            ((a.replaced register endpoint).lastId + 1) ((a.replaced register endpoint).depth + 1)
            (a.replaced register endpoint).openKinds) :=
        AnalyzerRegister.locate_perm perm fun analyzer known =>
          honest analyzer known op (a.lastId + 1) (a.depth + 1)
      rw [enterFresh_eq, enterFresh_eq]
      generalize a.analyzers.locate op _ _ _ = here at located ⊢
      generalize (a.replaced register endpoint).analyzers.locate op _ _ _ = there at located ⊢
      cases located with
      | crashed => exact ⟨.crashed, counted⟩
      | @done c d candidates =>
          obtain ⟨entry, considered⟩ := counted.consider candidates
            (.opened (a.lastId + 1) (a.top?.map Frame.id) op clock.now)
          exact ⟨.done (congrArg FrameEntry.id entry), considered.push entry⟩

theorem Alike.enter (h : Alike a b) (honest : ∀ analyzer ∈ a.analyzers, analyzer.Honest)
    (clock : Clock) (op : Operation) :
    Outcome.Both Eq (a.enter clock op).1 (b.enter clock op).1 ∧
      Alike (a.enter clock op).2 (b.enter clock op).2 := by
  rw [← analyzers_ready] at honest
  exact h.ready.enterFresh honest clock op

theorem Alike.complete (h : Alike a b) (clock : Clock) (root : Frame) :
    SameChoice (a.complete clock root).1 (b.complete clock root).1 ∧
      Alike (a.complete clock root).2 (b.complete clock root).2 := by
  cases h with
  | intro perm ties =>
      exact ⟨⟨rfl, ties.score, ties.frame⟩, .intro (r := (a.complete clock root).2) perm rfl⟩

/-- Leaving frames goes in step. -/
structure InStep {α : Type} (R : α → α → Prop) (x y : Clock × Recorder × Outcome α) : Prop where
  clock : x.1 = y.1
  alike : Alike x.2.1 y.2.1
  answer : Outcome.Both R x.2.2 y.2.2

/-- The same frame was left on both sides, and the same trace completed if it was the root. -/
structure SameExit (a b : Exited) : Prop where
  info : a.info = b.info
  completed : Option.Rel SameChoice a.completed b.completed

theorem Alike.exit (h : Alike a b) (clock : Clock) :
    InStep (Option.Rel SameExit) (a.exit clock) (b.exit clock) := by
  cases h with
  | @intro register endpoint perm ties =>
      rw [Recorder.exit, Recorder.exit, openFrames_replaced]
      rcases a.openFrames with _ | ⟨⟨e, cs⟩, outer⟩
      · exact ⟨rfl, .intro perm ties, .done .none⟩
      · dsimp only
        generalize e.op.finalize clock = finalized
        obtain ⟨clock, op, _ | message⟩ := finalized
        · rcases outer with _ | ⟨⟨parent, siblings⟩, outer⟩
          · have idle : Alike { a with openFrames := [] }
                ({ a with openFrames := [] }.replaced register endpoint) := .intro perm ties
            obtain ⟨choice, alike⟩ :=
              idle.complete clock (.node ({ e with op }.closed clock.now) cs)
            exact ⟨rfl, alike, .done (.some ⟨rfl, .some choice⟩)⟩
          · exact ⟨rfl, .intro (r := { a with openFrames := _, depth := _ }) perm ties,
              .done (.some ⟨rfl, .none⟩)⟩
        · exact ⟨rfl, .intro (r := { a with openFrames := outer }) perm ties, .crashed⟩

theorem Alike.exitMany (h : Alike a b) (n : Nat) (clock : Clock) :
    InStep (Option.Rel SameChoice) (a.exitMany n clock) (b.exitMany n clock) := by
  induction n generalizing a b clock with
  | zero => exact ⟨rfl, h, .done .none⟩
  | succ n ih =>
      have left := h.exit clock
      rw [Recorder.exitMany, Recorder.exitMany]
      generalize a.exit clock = x, b.exit clock = y at left
      obtain ⟨clock, a, here⟩ := x
      obtain ⟨clock', b, there⟩ := y
      obtain ⟨rfl, alike, answer⟩ := left
      cases answer with
      | crashed => exact ⟨rfl, alike, .crashed⟩
      | done same =>
          cases same with
          | none => exact ⟨rfl, alike, .done .none⟩
          | @some x y exited =>
              obtain ⟨info, left⟩ := x
              obtain ⟨info', left'⟩ := y
              obtain ⟨-, completed⟩ := exited
              cases completed with
              | none => exact ih alike clock
              | some choice => exact ⟨rfl, alike, .done (.some choice)⟩

theorem Alike.length (h : Alike a b) : a.openFrames.length = b.openFrames.length := by
  cases h
  rfl

theorem Alike.isDue (h : Alike a b) (maxAge now : Nat) :
    a.isDue maxAge now = b.isDue maxAge now := by
  cases h
  rfl

theorem Alike.markOverdue (h : Alike a b) : Alike a.markOverdue b.markOverdue := by
  cases h with
  | intro perm ties => exact .intro (r := a.markOverdue) perm ties

theorem Alike.unwind (h : Alike a b) (maxAge now : Nat) (clock : Clock) :
    InStep (Option.Rel SameChoice) (a.unwind maxAge now clock) (b.unwind maxAge now clock) := by
  cases due : a.isDue maxAge now with
  | false =>
      have late := due
      rw [h.isDue] at late
      rw [unwind_of_not_due due, unwind_of_not_due late]
      exact ⟨rfl, h, .done .none⟩
  | true =>
      have late := due
      rw [h.isDue] at late
      rw [unwind_of_due due, unwind_of_due late, h.length]
      exact h.markOverdue.exitMany _ clock

theorem Alike.withOperation (h : Alike a b) (f : Operation → Operation) :
    Alike (a.withOperation f) (b.withOperation f) := by
  cases h with
  | intro perm ties =>
      rw [Recorder.withOperation, Recorder.withOperation, openFrames_replaced]
      rcases a.openFrames with _ | ⟨⟨e, cs⟩, outer⟩
      · exact .intro perm ties
      · exact .intro (r := { a with openFrames := _ }) perm ties

theorem Alike.act (h : Alike a b) (clock : Clock) (action : Action) :
    (a.act clock action).1 = (b.act clock action).1 ∧
      Alike (a.act clock action).2.1 (b.act clock action).2.1 := by
  refine ⟨?_, ?_⟩
  · cases h with
    | intro =>
        rw [Recorder.act, Recorder.act, openFrames_replaced]
        rcases a.openFrames with _ | ⟨⟨e, cs⟩, outer⟩ <;> rfl
  · rw [act_eq_withOperation, act_eq_withOperation]
    exact h.withOperation _

theorem Alike.discard (h : Alike a b) (id : Nat) : Alike (a.discard id).2 (b.discard id).2 := by
  cases h with
  | intro perm ties =>
      rw [discard_replaced]
      have discarded := discards id a
      generalize a.discard id = result at discarded
      cases discarded with
      | refused => exact .intro perm ties
      | root => exact .intro (r := a.setHint _ _) perm ties
      | closed => exact .intro (r := { a with openFrames := _, frameCount := _ }) perm ties

theorem Alike.setHintAtRoot (h : Alike a b) (key : String) (value : Value) :
    Alike (a.setHintAtRoot key value).2 (b.setHintAtRoot key value).2 := by
  cases h with
  | @intro register endpoint perm ties =>
      have atRoot : (a.replaced register endpoint).atRoot = a.atRoot := rfl
      rw [Recorder.setHintAtRoot, Recorder.setHintAtRoot, atRoot]
      split
      · exact .intro (r := a.setHint key value) perm ties
      · exact .intro perm ties

theorem completed_map {α : Type} {R : α → α → Prop} {x y : Outcome α} {f : α → Answer}
    (h : Outcome.Both R x y) (each : ∀ a b, R a b → Option.Rel SameChoice
      (Answer.completed? (.done (f a))) (Answer.completed? (.done (f b)))) :
    Option.Rel SameChoice (Answer.completed? (x.map f)) (Answer.completed? (y.map f)) := by
  cases h with
  | done related => exact each _ _ related
  | crashed => exact .none

theorem completed_ofReply (reply : Option (Outcome Reply)) :
    Answer.completed? (Answer.ofReply reply) = none := by
  rcases reply with _ | _ | _ <;> rfl

/-- Two sessions that differ in the order of their analyzers, which report the frame they were
asked about. -/
structure Parallel (s t : Session) : Prop where
  clock : s.clock = t.clock
  recorder : Alike s.recorder t.recorder
  honest : ∀ analyzer ∈ s.recorder.analyzers, analyzer.Honest

/-- Every call keeps two sessions parallel, and completes the same trace in both or none. -/
theorem Parallel.step {s t : Session} (h : Parallel s t) (call : Call) :
    Option.Rel SameChoice (Answer.completed? (Recorder.step s call).1)
        (Answer.completed? (Recorder.step t call).1) ∧
      Parallel (Recorder.step s call).2 (Recorder.step t call).2 := by
  obtain ⟨clock, a⟩ := s
  obtain ⟨clock', b⟩ := t
  obtain ⟨rfl, alike, honest⟩ := h
  have kept : ∀ analyzer ∈ (Recorder.step ⟨clock, a⟩ call).2.recorder.analyzers,
      analyzer.Honest := by
    have same : (Recorder.step ⟨clock, a⟩ call).2.recorder.analyzers = a.analyzers :=
      congrArg (·.2.1) (setup_step ⟨clock, a⟩ call)
    rwa [same]
  cases call with
  | enter op =>
      obtain ⟨answer, entered⟩ := alike.enter honest clock op
      exact ⟨completed_map answer fun _ _ _ => .none, rfl, entered, kept⟩
  | exit =>
      obtain ⟨clock, left, answer⟩ := alike.exit clock
      refine ⟨completed_map answer fun x y same => ?_, clock, left, kept⟩
      cases same with
      | none => exact .none
      | some same => exact same.completed
  | dump =>
      refine ⟨.none, rfl, ?_, kept⟩
      cases alike with
      | intro perm ties => exact .intro (r := a.dump.2) perm rfl
  | setHint key value =>
      refine ⟨.none, rfl, ?_, kept⟩
      cases alike with
      | intro perm ties => exact .intro (r := a.setHint key value) perm ties
  | setHintObject key object =>
      refine ⟨.none, rfl, ?_, kept⟩
      cases alike with
      | intro perm ties => exact .intro (r := a.setHintObject key object) perm ties
  | act action =>
      obtain ⟨clock, alike⟩ := alike.act clock action
      refine ⟨?_, clock, alike, kept⟩
      simp only [Recorder.step, completed_ofReply]
      exact .none
  | unwind maxAge now =>
      obtain ⟨clock, left, answer⟩ := alike.unwind maxAge now clock
      exact ⟨completed_map answer fun _ _ same => same, clock, left, kept⟩
  | discard id => exact ⟨.none, rfl, alike.discard id, kept⟩
  | setHintAtRoot key value => exact ⟨.none, rfl, alike.setHintAtRoot key value, kept⟩
  | change f => exact ⟨.none, rfl, alike.withOperation f, kept⟩
  | wait nanos => exact ⟨.none, rfl, alike, kept⟩

def traces (s : Session) (calls : List Call) : List CompletedTrace :=
  (moments step s calls).filterMap fun m => Answer.completed? m.answer

theorem Parallel.traces {s t : Session} (h : Parallel s t) (calls : List Call) :
    List.Forall₂ SameChoice (Recorder.traces s calls) (Recorder.traces t calls) := by
  induction calls generalizing s t with
  | nil => exact .nil
  | cons call rest ih =>
      obtain ⟨completed, later⟩ := h.step call
      have rest := ih later
      simp only [Recorder.traces, moments, List.filterMap_cons] at rest ⊢
      simp only [Moment.at]
      generalize Answer.completed? (Recorder.step s call).1 = x,
        Answer.completed? (Recorder.step t call).1 = y at completed
      cases completed with
      | none => exact rest
      | some choice => exact .cons choice rest

def Session.registered (register : AnalyzerRegister) (s : Session) : Session :=
  { s with recorder := { s.recorder with analyzers := register } }

/-- In whatever order analyzers are registered, the same calls complete the same traces: the
endpoints have the same score and name the same frame, and the trees are equal with all their
marks. Analyzers report the frame they were asked about. -/
theorem winner_of_any_order {one other : AnalyzerRegister} (perm : one.Perm other)
    (honest : ∀ analyzer ∈ one, analyzer.Honest) (s : Session) (calls : List Call) :
    List.Forall₂ SameChoice (traces (Session.registered one s) calls)
      (traces (Session.registered other s) calls) := by
  have start : Parallel (Session.registered one s) (Session.registered other s) :=
    ⟨rfl, .intro (r := (Session.registered one s).recorder) perm rfl, honest⟩
  exact start.traces calls

def anyServlet : Analyzer where
  kinds := ["servlet"]
  locate op frame _ := .done (some {
    name := "servlet", resource := "servlet", sample := op.label, score := 10, kind := op.kind
    frame })

/-- Two analyzers that tie for every servlet, in both orders. -/
def Session.tied (swapped : Bool) : Session :=
  Session.analyzed (if swapped then [anyServlet, .typed ["servlet"] 10]
    else [.typed ["servlet"] 10, anyServlet])

/-- A servlet from which a query is discarded. -/
def servletWithoutQuery : List Call :=
  [.enter { kind := "http", label := "root" }, .enter { kind := "servlet", label := "page" },
    .enter { kind := "db", label := "query" }, .exit, .discard 3, .exit, .exit]

theorem winner_of_swapped_tie :
    (∀ analyzer ∈ [.typed ["servlet"] 10, anyServlet], analyzer.Honest) ∧
      List.Forall₂ SameChoice (traces (Session.tied false) servletWithoutQuery)
        (traces (Session.tied true) servletWithoutQuery) ∧
      (traces (Session.tied false) servletWithoutQuery).map
        (fun trace => trace.endpoint.map Endpoint.name) = [some "page"] ∧
      (traces (Session.tied true) servletWithoutQuery).map
        (fun trace => trace.endpoint.map Endpoint.name) = [some "servlet"] := by
  have honest : ∀ analyzer ∈ [.typed ["servlet"] 10, anyServlet], analyzer.Honest := by
    rw [List.forall_mem_cons, List.forall_mem_singleton]
    refine ⟨Analyzer.honest_typed _ _ _, ?_⟩
    intro op frame depth found located
    cases located
    rfl
  exact ⟨honest, winner_of_any_order (.swap _ _ []) honest (Session.plain 10) servletWithoutQuery,
    by decide +kernel, by decide +kernel⟩

end

end Recorder
end SpanCapture
