import SpanCapture.Proofs.Recorder.OwnData

/-! The fallback against what analyzers propose. It stands in for a root that no analyzer knows, as
a candidate of the least score, and what is proposed for a later frame takes its place just if it
scores more. A match of the least score does not, and saturation brings scores down to it. Crashes
are allowed here: a frame they lose brings nothing, as long as the root stays. -/
namespace SpanCapture

/-- No penalty takes a base score that is not negative down to the least. -/
theorem Analyzer.leastScore_lt_levelScore {base : Int} (nonneg : 0 ≤ base) (penalty : Int)
    (depth : Nat) : Endpoint.leastScore < levelScore base penalty depth := by
  have lost := (Endpoint.clampScore_bounds
    (penalty * min ((depth - 1 : Nat) : Int) Endpoint.greatestScore)).2
  have range : Endpoint.leastScore < -Endpoint.greatestScore := by decide
  have ordered : Endpoint.leastScore < Endpoint.greatestScore := by decide
  simp only [levelScore]
  generalize Endpoint.clampScore (penalty * _) = penalty at lost
  unfold Endpoint.clampScore
  omega

namespace AnalyzerRegister

/-- The fallback, where nothing is proposed for a root. -/
def standIn (op : Operation) (frame depth : Nat) (above : List String)
    (register : AnalyzerRegister) : List Endpoint :=
  if register.proposals op frame depth above = [] ∧ above = [] then
    [Analyzer.fallbackCandidate op frame]
  else []

/-- A typed analyzer proposes something for every kind it declares. -/
theorem exists_proposal_typed {op : Operation} {frame depth : Nat} {above kinds : List String}
    {base penalty : Int} {register : AnalyzerRegister}
    (known : Analyzer.typed kinds base penalty ∈ register) (declared : op.kind ∈ kinds)
    (outermost : op.kind ∉ above) :
    ∃ c ∈ register.proposals op frame depth above,
      c.score = Analyzer.levelScore base penalty depth := by
  have asked : Analyzer.typed kinds base penalty ∈
      register.filter fun analyzer => op.kind ∈ analyzer.kinds :=
    List.mem_filter.mpr ⟨known, decide_eq_true declared⟩
  have proposed : (Analyzer.typed kinds base penalty).proposal? op frame depth = some {
      name := op.label, resource := op.kind ++ ":" ++ op.label, sample := op.label
      score := Analyzer.levelScore base penalty depth, kind := op.kind, frame } :=
    if_pos (List.contains_iff_mem.mpr declared)
  rw [proposals, if_neg outermost]
  exact ⟨_, List.mem_filterMap.mpr ⟨_, asked, proposed⟩, rfl⟩

theorem standIn_append_proposals (op : Operation) (frame depth : Nat) (above : List String)
    (register : AnalyzerRegister) :
    register.standIn op frame depth above ++ register.proposals op frame depth above =
      register.candidates op frame depth above := by
  unfold standIn candidates
  split
  · rename_i nothing
    rw [nothing.1, List.append_nil]
  · rfl

end AnalyzerRegister

namespace Recorder

/-- What a source of candidates gives for the frame a call entered, if it entered one: it is asked
about the operation, the number and depth of the frame and the kinds above. -/
def asked (source : Operation → Nat → Nat → List String → List Endpoint)
    (m : Moment Session Call (Outcome Answer)) : List Endpoint :=
  match m.call, m.answer with
  | .enter op, .done (.entered number) =>
    let r := m.before.recorder.ready
    source op number (r.depth + 1) r.openKinds
  | _, _ => []

def offers (register : AnalyzerRegister) : Moment Session Call (Outcome Answer) → List Endpoint :=
  asked fun op frame depth above => register.candidates op frame depth above

def matched (register : AnalyzerRegister) : Moment Session Call (Outcome Answer) → List Endpoint :=
  asked fun op frame depth above => register.proposals op frame depth above

def standIns (register : AnalyzerRegister) :
    Moment Session Call (Outcome Answer) → List Endpoint :=
  asked fun op frame depth above => register.standIn op frame depth above

/-- An analyzer knows the root, or proposes something of more than the least score. -/
def Outdone (register : AnalyzerRegister)
    (course : List (Moment Session Call (Outcome Answer))) : Prop :=
  ∃ m ∈ course, ∃ c ∈ matched register m, opensRoot m ∨ Endpoint.leastScore < c.score

instance (register : AnalyzerRegister) (course : List (Moment Session Call (Outcome Answer))) :
    Decidable (Outdone register course) :=
  inferInstanceAs (Decidable (∃ m ∈ course, ∃ c ∈ matched register m, _ ∨ _))

/-- The course of a trace begins with the entering of its root and enters no other. -/
def Rooted (course : List (Moment Session Call (Outcome Answer))) : Prop :=
  ∃ s op rest, course = .at step s (.enter op) :: rest ∧ opensRoot (.at step s (.enter op)) ∧
    ∀ m ∈ rest, opensRoot m = false

section
variable {register : AnalyzerRegister} {course : List (Moment Session Call (Outcome Answer))}
  {m : Moment Session Call (Outcome Answer)} {s : Session} {call : Call} {op : Operation}
  {number : Nat} {source : Operation → Nat → Nat → List String → List Endpoint}

theorem asked_enter (done : (s.recorder.enter s.clock op).1 = .done number) :
    asked source (.at step s (.enter op)) =
      source op number (s.recorder.ready.depth + 1) s.recorder.ready.openKinds := by
  simp only [asked, Moment.at, step, done, Outcome.map_done]

theorem asked_of_crashed (crashed : ¬ m.answer.isDone) : asked source m = [] := by
  unfold asked
  split
  · rename_i done
    rw [done] at crashed
    exact absurd rfl crashed
  · rfl

theorem asked_of_not_enter (others : ∀ op, m.call ≠ .enter op) : asked source m = [] := by
  unfold asked
  split
  · rename_i op number isEnter done
    exact absurd isEnter (others op)
  · rfl

/-- Every frame that a typed analyzer knows outdoes the fallback if its base score is not negative,
unless a frame above is of the same kind. -/
theorem outdone_of_typed {kinds : List String} {base penalty : Int} (member : m ∈ course)
    (isEnter : m.call = .enter op) (done : m.answer = .done (.entered number))
    (known : Analyzer.typed kinds base penalty ∈ register) (declared : op.kind ∈ kinds)
    (outermost : op.kind ∉ m.before.recorder.ready.openKinds) (nonneg : 0 ≤ base) :
    Outdone register course := by
  obtain ⟨c, proposed, score⟩ : ∃ c ∈ register.proposals op number
      (m.before.recorder.ready.depth + 1) m.before.recorder.ready.openKinds,
      c.score = Analyzer.levelScore base penalty (m.before.recorder.ready.depth + 1) :=
    AnalyzerRegister.exists_proposal_typed known declared outermost
  refine ⟨m, member, c, ?_, .inr ?_⟩
  · simpa only [matched, asked, isEnter, done] using proposed
  · rw [score]
    exact Analyzer.leastScore_lt_levelScore nonneg penalty _

theorem openKinds_eq_nil_iff (r : Recorder) : r.openKinds = [] ↔ r.openFrames = [] := by
  rw [openKinds, List.map_eq_nil_iff, List.reverse_eq_nil_iff]

theorem standIns_of_not_root (below : opensRoot m = false) : standIns register m = [] := by
  unfold standIns asked
  split
  · rename_i op number isEnter done
    simp only [opensRoot, isEnter, done, isBuilding, Bool.not_not, List.isEmpty_eq_false_iff]
      at below
    refine if_neg fun root => below ?_
    exact (openKinds_eq_nil_iff _).mp root.2
  · rfl

theorem entered_root (root : opensRoot (.at step s (.enter op))) :
    s.recorder.ready.openFrames = [] ∧
      ∃ number, (s.recorder.enter s.clock op).1 = .done number := by
  cases answered : (s.recorder.enter s.clock op).1 with
  | crashed message =>
      simp [opensRoot, Moment.at, step, answered] at root
  | done number =>
      rw [opensRoot_enter answered] at root
      exact ⟨by simpa [isBuilding] using root, number, rfl⟩

/-- For a root there is either a proposal or the fallback, of the least score. -/
theorem standIns_root (register : AnalyzerRegister)
    (root : opensRoot (.at step s (.enter op))) :
    (standIns register (.at step s (.enter op)) = [] ∧
        matched register (.at step s (.enter op)) ≠ []) ∨
      ∃ c, standIns register (.at step s (.enter op)) = [c] ∧ c.score = Endpoint.leastScore ∧
        matched register (.at step s (.enter op)) = [] := by
  obtain ⟨idle, number, done⟩ := entered_root root
  rw [standIns, matched, asked_enter done, asked_enter done,
    (openKinds_eq_nil_iff _).mpr idle]
  by_cases nothing : register.proposals op number (s.recorder.ready.depth + 1) [] = []
  · exact .inr ⟨_, if_pos ⟨nothing, rfl⟩, rfl, nothing⟩
  · exact .inl ⟨if_neg fun both => nothing both.1, nothing⟩

theorem proceed_of_root (root : opensRoot m) : proceed course m = [m] := if_pos root

theorem proceed_of_below (below : opensRoot m = false) : proceed course m = course ++ [m] := by
  rw [proceed, below]
  rfl

theorem Rooted.start (root : opensRoot (.at step s (.enter op))) :
    Rooted [.at step s (.enter op)] :=
  ⟨s, op, [], rfl, root, fun _ none => absurd none List.not_mem_nil⟩

theorem Rooted.append (h : Rooted course) (below : opensRoot m = false) :
    Rooted (course ++ [m]) := by
  obtain ⟨s, op, rest, rfl, root, others⟩ := h
  refine ⟨s, op, rest ++ [m], rfl, root, ?_⟩
  rw [List.forall_mem_append, List.forall_mem_singleton]
  exact ⟨others, below⟩

/-- Only the root of a trace may have a stand-in. -/
theorem standIns_rest {rest : List (Moment Session Call (Outcome Answer))}
    (below : ∀ m ∈ rest, opensRoot m = false) : rest.flatMap (standIns register) = [] :=
  List.flatMap_eq_nil_iff.mpr fun m member => standIns_of_not_root (below m member)

theorem standIns_append_matched (m : Moment Session Call (Outcome Answer)) :
    standIns register m ++ matched register m = offers register m := by
  unfold standIns matched offers asked
  split
  · exact AnalyzerRegister.standIn_append_proposals ..
  · rfl

/-- The candidates of a trace: what stands in for its root, and then all that was proposed. -/
theorem Rooted.offers (h : Rooted course) (register : AnalyzerRegister) :
    course.flatMap (Recorder.offers register) =
      course.flatMap (standIns register) ++ course.flatMap (matched register) := by
  obtain ⟨s, op, rest, rfl, -, below⟩ := h
  have later : rest.flatMap (Recorder.offers register) = rest.flatMap (matched register) := by
    rw [List.flatMap_def, List.flatMap_def]
    refine congrArg List.flatten (List.map_congr_left fun m member => ?_)
    rw [← standIns_append_matched, standIns_of_not_root (below m member), List.nil_append]
  rw [List.flatMap_cons, List.flatMap_cons, List.flatMap_cons, standIns_rest below, later,
    ← standIns_append_matched, List.append_nil, List.append_assoc]

/-- What stands in for the root is of the least score, and only there where nothing is proposed for
it. -/
theorem Rooted.standIns (h : Rooted course) (register : AnalyzerRegister) :
    (course.flatMap (Recorder.standIns register) = [] ∧ Outdone register course) ∨
      ∃ c, course.flatMap (Recorder.standIns register) = [c] ∧ c.score = Endpoint.leastScore ∧
        (Outdone register course ↔
          ∃ d ∈ course.flatMap (matched register), Endpoint.leastScore < d.score) := by
  obtain ⟨s, op, rest, rfl, root, below⟩ := h
  rw [List.flatMap_cons, standIns_rest below, List.append_nil]
  rcases standIns_root register root with ⟨none, known⟩ | ⟨c, only, least, unknown⟩
  · refine .inl ⟨none, _, List.mem_cons_self, ?_⟩
    obtain ⟨d, member⟩ := List.exists_mem_of_ne_nil _ known
    exact ⟨d, member, .inl root⟩
  · refine .inr ⟨c, only, least, ?_⟩
    constructor
    · rintro ⟨m, member, d, proposed, isRoot | more⟩
      · rcases List.mem_cons.mp member with rfl | later
        · rw [unknown] at proposed
          cases proposed
        · rw [below m later] at isRoot
          cases isRoot
      · exact ⟨d, List.mem_flatMap.mpr ⟨m, member, proposed⟩, more⟩
    · rintro ⟨d, proposed, more⟩
      obtain ⟨m, member, proposed⟩ := List.mem_flatMap.mp proposed
      exact ⟨m, member, d, proposed, .inr more⟩

/-- The best of the candidates of a trace is proposed for one of its frames where the stand-in is
outdone, and is the stand-in elsewhere. -/
theorem Rooted.bestOf_offers (h : Rooted course) (register : AnalyzerRegister) :
    ∃ found, Endpoint.bestOf (course.flatMap (Recorder.offers register)) = some found ∧
      (Outdone register course →
        found.FirstBest (course.flatMap (matched register)) ∧
          found ∉ course.flatMap (Recorder.standIns register)) ∧
      (¬ Outdone register course → course.flatMap (Recorder.standIns register) = [found]) := by
  rw [h.offers]
  rcases h.standIns register with ⟨none, outdone⟩ | ⟨c, only, least, outdone⟩
  · have some : course.flatMap (matched register) ≠ [] := by
      obtain ⟨m, member, d, proposed, -⟩ := outdone
      exact List.ne_nil_of_mem (List.mem_flatMap.mpr ⟨m, member, proposed⟩)
    rw [none, List.nil_append]
    obtain ⟨found, best⟩ :=
      Option.ne_none_iff_exists'.mp fun nothing => some (Endpoint.bestOf_eq_none_iff.mp nothing)
    exact ⟨found, best, fun _ => ⟨Endpoint.firstBest_of_bestOf best, List.not_mem_nil⟩,
      fun unknown => absurd outdone unknown⟩
  · rw [outdone, only, ← least, List.singleton_append]
    rcases Endpoint.bestOf_cons_cases c (course.flatMap (matched register)) with
      ⟨more, found, best, isFirst, other⟩ | ⟨noMore, best⟩
    · exact ⟨found, best, fun _ => ⟨isFirst, fun member => other (List.mem_singleton.mp member)⟩,
        fun noMore => absurd more noMore⟩
    · exact ⟨c, best, fun more => absurd more noMore, fun _ => rfl⟩

/-- While a trace is in progress its endpoint is the best of the candidates so far, whatever
crashed. -/
structure Held (register : AnalyzerRegister)
    (course : List (Moment Session Call (Outcome Answer))) (s : Session) : Prop
    extends OwnEndpoint register course s.recorder where
  rooted : s.recorder.isBuilding → Rooted course
  endpoint : s.recorder.isBuilding →
    s.recorder.endpoint = Endpoint.bestOf (course.flatMap (offers register))

/-- A call that brings nothing leaves it so. -/
theorem Held.goesOn (h : Held register course s)
    (kept : (step s call).2.recorder.isBuilding →
      s.recorder.isBuilding ∧ (step s call).2.recorder.endpoint = s.recorder.endpoint)
    (below : opensRoot (.at step s call) = false) (nothing : offers register (.at step s call) = [])
    (own : OwnEndpoint register (course ++ [.at step s call]) (step s call).2.recorder) :
    Held register (course ++ [.at step s call]) (step s call).2 := by
  refine ⟨own, fun building => (h.rooted (kept building).1).append below, fun building => ?_⟩
  obtain ⟨before, same⟩ := kept building
  rw [same, h.endpoint before, List.flatMap_append, List.flatMap_singleton, nothing,
    List.append_nil]

/-- An entering that crashes brings nothing. -/
theorem Held.enter_crashed {message : String} (h : Held register course s)
    (crashed : (s.recorder.enter s.clock op).1 = .crashed message)
    (own : OwnEndpoint register (proceed course (.at step s (.enter op)))
      (step s (.enter op)).2.recorder) :
    Held register (proceed course (.at step s (.enter op))) (step s (.enter op)).2 := by
  have counted : (step s (.enter op)).2.recorder = s.recorder.ready.countEntry s.clock :=
    Recorder.enter_crashed crashed
  have unanswered : ¬ (Moment.at step s (.enter op)).answer.isDone := by
    simp [Moment.at, step, crashed]
  have below : opensRoot (.at step s (.enter op)) = false := by
    simp [opensRoot, Moment.at, step, crashed]
  rw [proceed_of_below below] at own ⊢
  refine h.goesOn ?_ below (asked_of_crashed unanswered) own
  intro building
  rw [counted] at building ⊢
  have kept := ready_of_building (r := s.recorder) building
  refine ⟨kept ▸ building, ?_⟩
  change s.recorder.ready.endpoint = _
  rw [kept]

theorem Held.enter_done (h : Held register course s)
    (done : (s.recorder.enter s.clock op).1 = .done number)
    (own : OwnEndpoint register (proceed course (.at step s (.enter op)))
      (step s (.enter op)).2.recorder) :
    Held register (proceed course (.at step s (.enter op))) (step s (.enter op)).2 := by
  obtain ⟨same, candidate, enters⟩ := enter_enters (Prod.ext done rfl)
  have located := enters.located
  rw [h.toOwnEndpoint.ready.analyzers, ← same] at located
  have best : candidate = Endpoint.bestOf (offers register (.at step s (.enter op))) := by
    rw [offers, asked_enter done]
    exact AnalyzerRegister.locate_done located
  have endpoint : (step s (.enter op)).2.recorder.endpoint = _ := enters.endpoint
  cases building : s.recorder.ready.isBuilding with
  | false =>
      have root : opensRoot (.at step s (.enter op)) := by
        rw [opensRoot_enter done, building]
        rfl
      rw [proceed_of_root root] at own ⊢
      refine ⟨own, fun _ => .start root, fun _ => ?_⟩
      rw [endpoint, best, h.toOwnEndpoint.ready.free building, Endpoint.prefer_none_left,
        List.flatMap_singleton]
  | true =>
      have below : opensRoot (.at step s (.enter op)) = false := by
        rw [opensRoot_enter done, building]
        rfl
      have kept := ready_of_building building
      have before : s.recorder.isBuilding := kept ▸ building
      rw [proceed_of_below below] at own ⊢
      refine ⟨own, fun _ => (h.rooted before).append below, fun _ => ?_⟩
      rw [endpoint, best, kept, h.endpoint before, List.flatMap_append, List.flatMap_singleton,
        Endpoint.bestOf_append]

theorem Held.step (h : Held register course s) (kept : RootKept (.at step s call)) :
    Held register (proceed course (.at Recorder.step s call)) (Recorder.step s call).2 := by
  have own := h.toOwnEndpoint.step kept
  by_cases enters : ∃ op, call = .enter op
  · obtain ⟨op, rfl⟩ := enters
    cases answered : (s.recorder.enter s.clock op).1 with
    | crashed message => exact h.enter_crashed answered own
    | done number => exact h.enter_done answered own
  · have others : ∀ op, call ≠ .enter op := fun op same => enters ⟨op, same⟩
    rw [proceed_of_not_enter others] at own ⊢
    exact h.goesOn (endpoint_step others) (opensRoot_of_not_enter others)
      (asked_of_not_enter others) own

/-- Unless a crash takes the root, the endpoint of a completed trace is decided so: where an
analyzer knows the root or proposes something of more than the least score for any frame of the
trace, the endpoint is the first best of all that was proposed and no stand-in. Otherwise it is the
stand-in for the root, even if something of the least score was proposed for a frame below. -/
theorem fallback_unless_outdone {first : Session}
    {history : List (Moment Session Call (Outcome Answer))} {trace : CompletedTrace}
    (fresh : first.recorder.reset = first.recorder) (run : Run step RootKept first history s)
    (completed : Answer.completed? (step s call).1 = some trace) :
    ∃ found, trace.endpoint = some found ∧
      (Outdone first.recorder.analyzers (Recorder.course history) →
        found.FirstBest ((Recorder.course history).flatMap (matched first.recorder.analyzers)) ∧
        found ∉ (Recorder.course history).flatMap (standIns first.recorder.analyzers)) ∧
      (¬ Outdone first.recorder.analyzers (Recorder.course history) →
        (Recorder.course history).flatMap (standIns first.recorder.analyzers) = [found]) := by
  have start : Held first.recorder.analyzers [] first := by
    have idle : first.recorder.isBuilding = false ∧ first.recorder.endpoint = none := by
      rw [← fresh]
      exact ⟨rfl, rfl⟩
    refine ⟨⟨rfl, fun _ => idle.2, ?_⟩, ?_, ?_⟩ <;>
      · intro building
        rw [idle.1] at building
        cases building
  have held : Held first.recorder.analyzers (Recorder.course history) s :=
    run.book_invariant proceed [] start fun _ _ _ h kept => h.step kept
  obtain ⟨building, same⟩ := endpoint_completed completed
  obtain ⟨found, best, outdone, left⟩ :=
    (held.rooted building).bestOf_offers first.recorder.analyzers
  exact ⟨found, same.trans ((held.endpoint building).trans best), outdone, left⟩

def Session.scored (base penalty : Int) : Session :=
  Session.analyzed [.typed ["servlet"] base penalty]

/-- One frame below a root that no analyzer knows. -/
def childLeft (kind : String) : List Call :=
  [.enter { kind := "http", label := "root" }, .enter { kind, label := "child" }, .exit]

theorem fallback_outdone_and_left :
    (∀ kind ∈ ["servlet", "db"], ∀ m ∈ moments step (Session.scored (-5) 0) (childLeft kind),
        RootKept m) ∧
      (∃ trace found,
        Answer.completed? (step (after step (Session.scored (-5) 0) (childLeft "servlet"))
            .exit).1 = some trace ∧
          trace.endpoint = some found ∧ found.FirstBest
            ((Recorder.course (moments step (Session.scored (-5) 0) (childLeft "servlet"))).flatMap
              (matched (Session.scored (-5) 0).recorder.analyzers))) ∧
      ∃ trace,
        Answer.completed? (step (after step (Session.scored (-5) 0) (childLeft "db"))
            .exit).1 = some trace ∧
          trace.endpoint =
            some (Analyzer.fallbackCandidate { kind := "http", label := "root" } 1) := by
  have ok : ∀ kind ∈ ["servlet", "db"],
      ∀ m ∈ moments step (Session.scored (-5) 0) (childLeft kind), RootKept m := by
    decide +kernel
  have completes : ∀ kind ∈ ["servlet", "db"], ((Answer.completed? (step (after step
      (Session.scored (-5) 0) (childLeft kind)) .exit).1).map fun _ => ()) = some () := by
    decide +kernel
  have servlet : Outdone (Session.scored (-5) 0).recorder.analyzers
      (Recorder.course (moments step (Session.scored (-5) 0) (childLeft "servlet"))) := by
    decide +kernel
  have db : ¬ Outdone (Session.scored (-5) 0).recorder.analyzers
      (Recorder.course (moments step (Session.scored (-5) 0) (childLeft "db"))) := by
    decide +kernel
  have root : (Recorder.course (moments step (Session.scored (-5) 0) (childLeft "db"))).flatMap
      (standIns (Session.scored (-5) 0).recorder.analyzers) =
        [Analyzer.fallbackCandidate { kind := "http", label := "root" } 1] := by
    decide +kernel
  obtain ⟨page, pageDone, -⟩ := Option.map_eq_some_iff.mp (completes "servlet" (by decide))
  obtain ⟨query, queryDone, -⟩ := Option.map_eq_some_iff.mp (completes "db" (by decide))
  obtain ⟨best, pageEndpoint, outdone, -⟩ :=
    fallback_unless_outdone rfl (Run.of_moments (ok "servlet" (by decide))) pageDone
  obtain ⟨found, queryEndpoint, -, left⟩ :=
    fallback_unless_outdone rfl (Run.of_moments (ok "db" (by decide))) queryDone
  have same : [_] = [found] := root.symm.trans (left db)
  rw [← (List.cons_eq_cons.mp same).1] at queryEndpoint
  exact ⟨ok, ⟨page, best, pageDone, pageEndpoint, (outdone servlet).1⟩, query, queryDone,
    queryEndpoint⟩

/-- The penalty takes the score of the servlet down to the least, and the fallback wins though an
analyzer matched. -/
theorem saturated_match_loses :
    ((Recorder.course (moments step (Session.scored (-10) 2147483647)
        (childLeft "servlet"))).flatMap
      (matched (Session.scored (-10) 2147483647).recorder.analyzers)).map
        (fun c => (c.frame, c.score)) = [(2, -2147483648)] ∧
      (Answer.completed? (step (after step (Session.scored (-10) 2147483647)
        (childLeft "servlet")) .exit).1).map (fun trace => trace.endpoint) =
        some (some (Analyzer.fallbackCandidate { kind := "http", label := "root" } 1)) := by
  decide +kernel

end

end Recorder
end SpanCapture
