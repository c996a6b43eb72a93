import SpanCapture.Proofs.Recorder.StaleNumbers

/-! Starting over after a trace has grown too large. The next frame entered is the root of a new
trace, with nothing left of the old one but the preserved hints. The mark of a trace too large is a
hint itself: where it is not among the preserved ones, further frames are entered below the new
root; where it is, every further frame starts over again. -/
namespace SpanCapture
namespace Recorder

def restarted (clock : Clock) (op : Operation) (found : Endpoint) (r : Recorder) : Recorder :=
  { r.resetAborted with
    openFrames := [.node (.opened 1 none (op.markEndpoint true) clock.now) []]
    endpoint := some found
    start := some clock.instant
    lastId := 1
    frameCount := 1
    depth := 1 }

structure Alone (r : Recorder) : Prop where
  frame : ∃ start, r.openings = [⟨1, none, start⟩]
  frameCount : r.frameCount = 1
  depth : r.depth = 1

structure Second (clock : Clock) (root : Opening) (r : Recorder) : Prop where
  frames : r.openings = [⟨2, some root.id, clock.now⟩, root]
  frameCount : r.frameCount = 2
  depth : r.depth = 2

/-- How starting over with a root ends: which hints are left, and what entering more frames comes
to. -/
structure StartsOver (preserved : List String) (hints : Hints) (clock : Clock) (r : Recorder) :
    Prop where
  alone : r.Alone
  hints : ∀ key, r.hints.find? key = if key ∈ preserved then hints.find? key else none
  aborted : r.isAborted ↔ HintName.aborted ∈ preserved
  goesOn : HintName.aborted ∉ preserved → ∀ later op number r',
    r.enter later op = (.done number, r') →
    number = 2 ∧ r'.Second later ⟨1, none, clock.now⟩
  startsAgain : HintName.aborted ∈ preserved → ∀ history s,
    Run step (fun m => (entered? m).isSome) ⟨clock, r⟩ history s →
    s.recorder.Alone ∧ s.recorder.isAborted

section
variable {clock : Clock} {op : Operation} {number : Nat} {r r' : Recorder} {s : Session}
  {call : Call} {found : Endpoint} {config : Config}

theorem entered_cases (entered : (entered? (.at step s call)).isSome) :
    ∃ op number, call = .enter op ∧ (s.recorder.enter s.clock op).1 = .done number := by
  cases call with
  | enter op =>
      refine ⟨op, ?_⟩
      simp only [entered?, Moment.at, step] at entered
      cases answer : (s.recorder.enter s.clock op).1 with
      | crashed message =>
          rw [answer] at entered
          cases entered
      | done number => exact ⟨number, rfl, rfl⟩
  | exit =>
      simp only [entered?, Moment.at, step] at entered
      cases answer : (s.recorder.exit s.clock).2.2 <;> rw [answer] at entered <;> cases entered
  | act action =>
      simp only [entered?, Moment.at, step] at entered
      rcases answer : (s.recorder.act s.clock action).2.2 with _ | _ | _ <;> rw [answer] at entered <;>
        cases entered
  | unwind maxAge now =>
      simp only [entered?, Moment.at, step] at entered
      cases answer : (s.recorder.unwind maxAge now s.clock).2.2 <;> rw [answer] at entered <;>
        cases entered
  | _ => cases entered

/-- A mark that is preserved outlives starting over, and no other does. -/
theorem isAborted_restarted (aborted : r.isAborted) :
    (r.restarted clock op found).isAborted ↔ HintName.aborted ∈ r.limits.preserved := by
  have kept := Hints.find?_retain r.limits.preserved HintName.aborted r.hints
  change Hints.flag HintName.aborted (r.hints.retain r.limits.preserved) = true ↔ _
  change Hints.flag HintName.aborted r.hints = true at aborted
  unfold Hints.flag Hints.value? at aborted ⊢
  rw [kept]
  by_cases member : HintName.aborted ∈ r.limits.preserved
  · rw [if_pos (List.contains_iff_mem.mpr member)]
    exact iff_of_true aborted member
  · rw [if_neg (mt List.contains_iff_mem.mp member)]
    exact iff_of_false Bool.false_ne_true member

theorem alone_restarted (clock : Clock) (op : Operation) (found : Endpoint) (r : Recorder) :
    (r.restarted clock op found).Alone := ⟨⟨clock.now, rfl⟩, rfl, rfl⟩

theorem push_of_room (room : r.frameCount ≤ r.limits.maxFrames) (e : FrameEntry) :
    r.push e = { r with openFrames := .node e [] :: r.openFrames } := by
  unfold push
  exact if_neg fun tooMany => Nat.not_lt.mpr room tooMany.1

/-- An answered entering of a recorder whose trace is too large starts over, with the candidate found
for an operation without any above it. One frame is not too many. -/
theorem enter_restarts (room : 0 < r.limits.maxFrames) (aborted : r.isAborted)
    (entered : r.enter clock op = (.done number, r')) :
    number = 1 ∧ ∃ found, r.analyzers.locate op 1 1 [] = .done (some found) ∧
      r' = r.restarted clock op found := by
  have base : r.ready = r.resetAborted := if_pos aborted
  obtain ⟨same, candidate, enters⟩ := enter_enters entered
  rw [base] at same enters
  obtain ⟨found, rfl⟩ := Option.isSome_iff_exists.mp (enters.isSome_of_idle rfl)
  have located : r.analyzers.locate op 1 1 [] = .done (some found) := enters.located
  refine ⟨same, found, located, ?_⟩
  let counted : Recorder := { r.resetAborted.countEntry clock with endpoint := some found }
  have answer : r.enter clock op =
      (.done 1, counted.push (.opened 1 none (op.markEndpoint true) clock.now)) := by
    change r.ready.enterFresh clock op = _
    rw [base, enterFresh]
    dsimp only
    split
    · rename_i message crashed
      cases located.symm.trans crashed
    · rename_i candidate done
      cases located.symm.trans done
      rfl
  have few : counted.frameCount ≤ counted.limits.maxFrames := room
  exact (congrArg Prod.snd (entered.symm.trans answer)).trans (push_of_room few _)

/-- Below a root that is no trace too large, the next frame is entered as the second. -/
theorem Alone.second {later : Clock} {start : Nat} (h : r.Alone)
    (frame : r.openings = [⟨1, none, start⟩]) (sound : r.isAborted = false) (counted : r.lastId = 1)
    (entered : r.enter later op = (.done number, r')) :
    number = 2 ∧ r'.Second later ⟨1, none, start⟩ := by
  have base : r.ready = r := if_neg (Bool.eq_false_iff.mp sound)
  obtain ⟨same, candidate, enters⟩ := enter_enters entered
  rw [base] at same enters
  refine ⟨same.trans (congrArg (· + 1) counted), ?_, ?_, ?_⟩
  · rw [openings_opens enters.toOpens, counted, frame]
    rfl
  · rw [enters.frameCount, h.frameCount]
  · rw [enters.depth, h.depth]

/-- An answered entering, taken apart. -/
theorem enter_eq (answer : (r.enter clock op).1 = .done number) :
    r.enter clock op = (.done number, (r.enter clock op).2) := Prod.ext answer rfl

/-- Where the mark is preserved, frames entered are roots, one after another. -/
theorem alone_of_entered {history : List (Moment Session Call (Outcome Answer))} {first : Session}
    (room : 0 < first.recorder.limits.maxFrames)
    (kept : HintName.aborted ∈ first.recorder.limits.preserved) (alone : first.recorder.Alone)
    (aborted : first.recorder.isAborted)
    (run : Run step (fun m => (entered? m).isSome) first history s) :
    s.recorder.Alone ∧ s.recorder.isAborted := by
  have whole : s.recorder.limits = first.recorder.limits ∧ s.recorder.Alone ∧
      s.recorder.isAborted := by
    refine run.invariant (P := fun s => s.recorder.limits = first.recorder.limits ∧
      s.recorder.Alone ∧ s.recorder.isAborted) ⟨rfl, alone, aborted⟩ ?_
    rintro s call ⟨limits, -, aborted⟩ entered
    obtain ⟨op, number, rfl, answer⟩ := entered_cases entered
    rw [← limits] at room kept
    obtain ⟨-, found, -, same⟩ := enter_restarts room aborted (enter_eq answer)
    change (s.recorder.enter s.clock op).2.limits = _ ∧ (s.recorder.enter s.clock op).2.Alone ∧
      (s.recorder.enter s.clock op).2.isAborted
    rw [same]
    exact ⟨limits, alone_restarted _ _ _ _, (isAborted_restarted aborted).mpr kept⟩
  exact whole.2

theorem startsOver_restarted (room : 0 < r.limits.maxFrames) (aborted : r.isAborted) (clock : Clock)
    (op : Operation) (found : Endpoint) :
    StartsOver r.limits.preserved r.hints clock (r.restarted clock op found) := by
  have mark : (r.restarted clock op found).isAborted ↔ HintName.aborted ∈ r.limits.preserved :=
    isAborted_restarted aborted
  have alone := alone_restarted clock op found r
  refine ⟨alone, fun key => ?_, mark, ?_, ?_⟩
  · have kept := Hints.find?_retain r.limits.preserved key r.hints
    change (r.hints.retain r.limits.preserved).find? key = _
    rw [kept]
    simp only [List.contains_iff_mem]
  · intro gone later op' number r' entered
    have sound := Bool.eq_false_iff.mpr (mt mark.mp gone)
    exact alone.second rfl sound rfl entered
  · intro kept history s run
    exact alone_of_entered room kept alone (mark.mpr kept) run

theorem maxFrames_pos_of_validate (valid : config.validate = .ok config) : 0 < config.maxFrames := by
  unfold Config.validate at valid
  split at valid
  · cases valid
  · rename_i sound
    exact (config.fault?_eq_none_iff.mp sound).1

/-- A recorder made with a valid configuration, whatever has been called and has crashed: once its
trace is too large, the next entering that is answered drops all of it and leaves one open frame,
number 1 and without parent, with an endpoint found for its operation alone and with the preserved
hints.
The recorder goes on from there unless the mark of a trace too large is preserved as well; then it
never gets beyond a root. -/
theorem too_large_starts_over (valid : config.validate = .ok config) {first : Clock}
    {analyzers : AnalyzerRegister} {identity : Identity}
    {history : List (Moment Session Call (Outcome Answer))}
    (run : Run step (fun _ => True) ⟨first, { limits := config.limits, analyzers, identity }⟩
      history s)
    (aborted : s.recorder.isAborted)
    (entered : s.recorder.enter s.clock op = (.done number, r')) :
    number = 1 ∧
      (∃ found, analyzers.locate op 1 1 [] = .done (some found) ∧ r'.endpoint = some found) ∧
      r'.openFrames = [.node (.opened 1 none (op.markEndpoint true) s.clock.now) []] ∧
      StartsOver config.preservedHints s.recorder.hints s.clock r' := by
  have made : s.recorder.setup = (config.limits, analyzers, identity) :=
    run.invariant (P := fun s => s.recorder.setup = (config.limits, analyzers, identity)) rfl
      fun s call made _ => (setup_step s call).trans made
  obtain ⟨limits, register, -⟩ : s.recorder.limits = config.limits ∧
      s.recorder.analyzers = analyzers ∧ s.recorder.identity = identity := by
    simpa [setup] using made
  have room : 0 < s.recorder.limits.maxFrames := by
    rw [limits]
    exact maxFrames_pos_of_validate valid
  obtain ⟨first, found, located, rfl⟩ := enter_restarts room aborted entered
  rw [register] at located
  refine ⟨first, ⟨found, located, rfl⟩, rfl, ?_⟩
  have fresh := startsOver_restarted room aborted s.clock op found
  rwa [limits] at fresh

def Session.configured (config : Config) : Session where
  clock := ⟨0, 0⟩
  recorder := {
    limits := config.limits, analyzers := [], identity := { context := 1, threadId := "main" } }

/-- A trace of one frame too many, with an application and a note. -/
def tooLarge : List Call :=
  [.enter { kind := "http", label := "first" }, .setHint HintName.application (.text "shop"),
    .setHint "note" (.bool true), .enter { kind := "db", label := "query" }]

theorem small_trace_starts_over :
    let config : Config := { maxFrames := 1 }
    let s := after step (Session.configured config) tooLarge
    let r := (s.recorder.enter s.clock { kind := "http", label := "second" }).2
    config.validate = .ok config ∧ s.recorder.isAborted ∧
      (s.recorder.enter s.clock { kind := "http", label := "second" }).1 = .done 1 ∧
      StartsOver [HintName.application] s.recorder.hints s.clock r ∧
      r.isAborted = false ∧ r.hints.map Prod.fst = [HintName.application] := by
  intro config s r
  have valid : config.validate = .ok config := rfl
  have aborted : s.recorder.isAborted := by decide +kernel
  have answer : (s.recorder.enter s.clock { kind := "http", label := "second" }).1 = .done 1 := by
    decide +kernel
  have run : Run step (fun _ => True) (Session.configured config)
      (moments step (Session.configured config) tooLarge) s := .of_moments fun _ _ => trivial
  obtain ⟨-, -, -, fresh⟩ := too_large_starts_over valid run aborted (enter_eq answer)
  refine ⟨valid, aborted, answer, fresh, ?_, ?_⟩ <;> decide +kernel

/-- The mark of a trace too large may be preserved: the new trace of one frame has it as well. -/
theorem preserved_mark_outlives_restart :
    let config : Config := { maxFrames := 1, preservedHints := [HintName.aborted] }
    let s := after step (Session.configured config) tooLarge
    config.validate = .ok config ∧ s.recorder.isAborted ∧
      (s.recorder.enter s.clock { kind := "http", label := "second" }).1 = .done 1 ∧
      (s.recorder.enter s.clock { kind := "http", label := "second" }).2.isAborted := by
  refine ⟨rfl, ?_, ?_, ?_⟩ <;> decide +kernel

end
end Recorder
end SpanCapture
