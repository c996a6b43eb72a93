import Mathlib.Logic.Relation
import SpanCapture.Collection.Aspects
import SpanCapture.Proofs.Run

/-! Calls on a switchboard, and what they come to. Requests are served by errands, and what every
errand keeps is kept until nothing is left to do, whatever listeners and strategies ask for in
between. All other calls are rows of events: requests served, a strategy gone on in its own state,
the chain looking again, a listener come or gone. -/
namespace SpanCapture

/-- How a strategy may go on: its kind stays, and so does all that makes it active. -/
inductive Strategy.Becomes : Strategy → Strategy → Prop
  | same (s : Strategy) : Becomes s s
  | decided (t t' : RatioTracker) : Becomes (.endpoints t) (.endpoints t')
  | noted (l l' : AspectLedger) : Becomes (.aspects l) (.aspects l')
  | discovered (d d' : List String) : Becomes (.callSites d) (.callSites d')

namespace Strategy.Becomes

variable {s s' : Strategy}

theorem priority (h : s.Becomes s') : s'.priority = s.priority := by
  cases h <;> rfl

theorem activation (h : s.Becomes s') : s'.activation = s.activation := by
  cases h <;> rfl

theorem isActive (h : s.Becomes s') (settings : Settings) :
    s'.isActive settings = s.isActive settings := by
  cases h <;> rfl

theorem collect (h : s.Becomes s') (settings : Settings) (probe : Probe) :
    s'.collect settings probe = s.collect settings probe := by
  cases h <;> rfl

theorem switchOf? (h : s.Becomes s') (probe : Probe) : s'.switchOf? probe = s.switchOf? probe := by
  cases h <;> rfl

theorem remember (settings : Settings) (switch : String) (s : Strategy) :
    s.Becomes (s.remember settings switch) := by
  cases s with
  | callSites known =>
      simp only [Strategy.remember]
      split
      · exact .same _
      · exact .discovered known _
  | agent => exact .same _
  | ignored => exact .same _
  | endpoints => exact .same _
  | plugins => exact .same _
  | aspects => exact .same _
  | custom => exact .same _

end Strategy.Becomes

namespace Switchboard

inductive Call where
  | write (name : String) (value : Value)
  | register (name : String) (value : Value)
  | subscribe (listener : Listener)
  | dismiss (id : Nat)
  | add (strategy : Strategy)
  | enlist (number : Nat)
  | refresh
  | collect (probe : Probe)
  | ignoreApplications (number : Nat) (applications : List String)
  | disableAspect (number : Nat) (aspect plugin reason : String)
  | enableAspect (number : Nat) (aspect : String)
  | recordFailure (number : Nat) (aspect plugin reason : String)
  | decideRoot (number : Nat)

inductive Answer where
  | value (value : Value)
  | number (number : Nat)
  | flag (flag : Bool)
  | nothing

def step (board : Switchboard) : Call → Answer × Switchboard
  | .write name value => (.nothing, board.write name value)
  | .register name value =>
    let (current, board) := board.register name value
    (.value current, board)
  | .subscribe listener =>
    let (id, board) := board.subscribe (.listener listener)
    (.number id, board)
  | .dismiss id =>
    (.flag (board.subscribers.any fun entry => entry.1 == id && !entry.2.isChain),
      board.dismiss id)
  | .add strategy =>
    let (number, board) := board.add strategy
    (.number number, board)
  | .enlist number => (.nothing, board.enlist number)
  | .refresh => (.nothing, board.refresh)
  | .collect probe =>
    let (verdict, board) := board.collect probe
    (.flag verdict, board)
  | .ignoreApplications number applications =>
    (.nothing, board.ignoreApplications number applications)
  | .disableAspect number aspect plugin reason =>
    (.nothing, board.disableAspect number aspect plugin reason)
  | .enableAspect number aspect => (.nothing, board.enableAspect number aspect)
  | .recordFailure number aspect plugin reason =>
    let (disabled, board) := board.recordFailure number aspect plugin reason
    (.flag disabled, board)
  | .decideRoot number =>
    let (downgrade, board) := board.decideRoot number
    (.flag downgrade, board)

def Call.OnSettings : Call → Prop
  | .write .. | .register .. | .subscribe _ | .dismiss _ => True
  | _ => False

/-- The calls that neither bring a strategy nor push ignored applications. -/
def Call.Plain : Call → Prop
  | .add _ | .ignoreApplications .. => False
  | _ => True

theorem Call.OnSettings.plain {call : Call} (h : call.OnSettings) : call.Plain := by
  cases call <;> trivial

/-- A change of a name may make some strategy of the chain active or not. -/
def Heeds (board : Switchboard) (name : String) : Prop :=
  ∃ s ∈ board.named board.registered, startsWith s.activation name = true

inductive Attends (board : Switchboard) : Errand → Switchboard × List Errand → Prop
  | looked {id : Nat} {name : String} {value : Value} (heeds : board.Heeds name) :
      Attends board (.tell id .chain name value) (board.refresh, [])
  | passed {id : Nat} {name : String} {value : Value} (unheeded : ¬board.Heeds name) :
      Attends board (.tell id .chain name value) (board, [])
  | heard {id : Nat} {listener : Listener} {name : String} {value : Value} :
      Attends board (.tell id (.listener listener) name value)
        (board.note (.told id listener.label name value),
          (listener.react board.journal name value).map .serve)
  | written {name : String} {value : Value} (differs : board.settings.differs name value = true) :
      Attends board (.serve (.write name value))
        ({ board with settings := (board.settings.mark name).introduce name value },
          board.announce name value)
  | rewritten {name : String} {value : Value} (same : board.settings.differs name value = false) :
      Attends board (.serve (.write name value))
        ({ board with settings := board.settings.mark name }, [])
  | introduced {name : String} {value : Value} (unknown : board.settings.get? name = none) :
      Attends board (.serve (.register name value))
        ({ board with settings := board.settings.introduce name value },
          board.announce name value)
  | known {name : String} {value : Value} (stored : (board.settings.get? name).isSome) :
      Attends board (.serve (.register name value)) (board, [])
  | enlisted {number : Nat} : Attends board (.serve (.enlist number)) (board.enlist number, [])
  | dismissed {id : Nat} : Attends board (.serve (.unsubscribe id)) (board.dismiss id, [])

theorem chainTold_of_heeds {board : Switchboard} {name : String} (heeds : board.Heeds name) :
    board.chainTold name = board.refresh := if_pos (List.any_eq_true.mpr heeds)

theorem chainTold_of_not_heeds {board : Switchboard} {name : String}
    (unheeded : ¬board.Heeds name) : board.chainTold name = board :=
  if_neg fun told => unheeded (List.any_eq_true.mp told)

theorem attends (board : Switchboard) (errand : Errand) :
    Attends board errand (board.attend errand) := by
  cases errand with
  | tell id subscriber name value =>
      cases subscriber with
      | chain =>
          change Attends board _ (board.chainTold name, [])
          by_cases heeds : board.Heeds name
          · rw [chainTold_of_heeds heeds]
            exact .looked heeds
          · rw [chainTold_of_not_heeds heeds]
            exact .passed heeds
      | listener listener => exact .heard
  | serve request =>
      cases request with
      | write name value =>
          simp only [attend]
          cases differs : board.settings.differs name value with
          | true =>
              rw [Settings.write_of_differs name value _ differs]
              exact .written differs
          | false =>
              rw [Settings.write_of_same name value _ differs]
              exact .rewritten differs
      | register name value =>
          simp only [attend]
          cases stored : board.settings.get? name with
          | none => exact .introduced stored
          | some => exact .known (by rw [stored]; rfl)
      | enlist number => exact .enlisted
      | unsubscribe id => exact .dismissed

section
variable {board : Switchboard} {P : Switchboard → List Errand → Prop}

/-- What every errand keeps, with those it gives rise to put before the others, is kept until
all are done. -/
theorem settle_keeps (keeps : ∀ board errand rest, P board (errand :: rest) →
      P (board.attend errand).1 ((board.attend errand).2 ++ rest))
    {errands : List Errand} {last : Switchboard} (start : P board errands)
    (settled : board.settle errands = some last) : P last [] := by
  refine settle.partial_correctness (motive := fun board errands last =>
    P board errands → P last []) ?_ board errands last settled start
  intro settle ih board errands last settled start
  cases errands with
  | nil =>
      cases settled
      exact start
  | cons errand rest => exact ih _ _ _ settled (keeps board errand rest start)

theorem serveAll_keeps (keeps : ∀ board errand rest, P board (errand :: rest) →
      P (board.attend errand).1 ((board.attend errand).2 ++ rest))
    {requests : List Request} (start : P board (requests.map .serve)) (idle : P board []) :
    P (board.serveAll requests) [] := by
  rw [serveAll_eq]
  cases settled : board.settle (requests.map .serve) with
  | none => exact idle
  | some last => exact settle_keeps keeps start settled

end

inductive Event (board : Switchboard) : Switchboard → Prop
  | served (requests : List Request) : Event board (board.serveAll requests)
  | replaced {number : Nat} {s s' : Strategy} (known : board.strategies[number]? = some s)
      (becomes : s.Becomes s') : Event board (board.replace number s')
  | noted (event : BoardEvent) : Event board (board.note event)
  | enlisted (number : Nat) : Event board (board.enlist number)
  | refreshed : Event board board.refresh
  | subscribed (listener : Listener) : Event board (board.subscribe (.listener listener)).2
  | dismissed (id : Nat) : Event board (board.dismiss id)

abbrev Events : Switchboard → Switchboard → Prop := Relation.ReflTransGen Event

section
variable {board : Switchboard} {probe : Probe}

theorem events_register (name : String) (value : Value) (board : Switchboard) :
    Events board (board.register name value).2 := by
  unfold register
  split
  · exact .refl
  · exact .single (.served _)

theorem events_observe (number : Nat) (probe : Probe) (board : Switchboard) :
    Events board (board.observe number probe).2 := by
  unfold observe
  split
  · exact .refl
  · exact .tail (.single (.noted _)) (.served _)
  · rename_i s _ known
    split
    · exact .refl
    · exact .head (.replaced known (.remember _ _ s)) (events_register _ _ _)

theorem events_observeAll (probe : Probe) (numbers : List Nat) (board : Switchboard) :
    Events board (board.observeAll probe numbers) := by
  induction numbers generalizing board with
  | nil => exact .refl
  | cons number rest ih => exact (events_observe number probe board).trans (ih _)

theorem events_judge (number : Nat) (probe : Probe) (board : Switchboard) :
    Events board (board.judge number probe).2 := by
  unfold judge
  split
  · exact .refl
  · exact .tail (.single (.noted _)) (.served _)
  · exact .refl

theorem judgeAll_rejected {number : Nat}
    (rejected : (board.judge number probe).1 = .done false) (rest : List Nat) :
    board.judgeAll probe (number :: rest) = (false, (board.judge number probe).2) := by
  rw [judgeAll]
  generalize board.judge number probe = judged at rejected ⊢
  obtain ⟨verdict, next⟩ := judged
  subst rejected
  rfl

theorem judgeAll_passed {number : Nat} (passed : (board.judge number probe).1 ≠ .done false)
    (rest : List Nat) :
    board.judgeAll probe (number :: rest) = (board.judge number probe).2.judgeAll probe rest := by
  rw [judgeAll]
  generalize board.judge number probe = judged at passed ⊢
  obtain ⟨verdict, next⟩ := judged
  split
  · rename_i here
    exact absurd (congrArg Prod.fst here) passed
  · rename_i here
    cases here
    rfl

theorem events_judgeAll (probe : Probe) (numbers : List Nat) (board : Switchboard) :
    Events board (board.judgeAll probe numbers).2 := by
  induction numbers generalizing board with
  | nil => exact .refl
  | cons number rest ih =>
      have judged := events_judge number probe board
      by_cases rejected : (board.judge number probe).1 = .done false
      · rw [judgeAll_rejected rejected]
        exact judged
      · rw [judgeAll_passed rejected]
        exact judged.trans (ih _)

theorem events_collect (probe : Probe) (board : Switchboard) :
    Events board (board.collect probe).2 :=
  (events_observeAll probe _ board).trans (events_judgeAll probe _ _)

theorem events_withLedger (number : Nat) (change : AspectLedger → AspectLedger)
    (board : Switchboard) : Events board (board.withLedger number change) := by
  unfold withLedger
  split
  · rename_i ledger known
    unfold ledger? at known
    split at known
    · rename_i found
      exact .single (.replaced found (.noted _ _))
    · cases known
  · exact .refl

theorem events_disableAspect (number : Nat) (aspect plugin reason : String) (board : Switchboard) :
    Events board (board.disableAspect number aspect plugin reason) :=
  (events_withLedger number _ board).tail (.served _)

theorem events_recordFailure (number : Nat) (aspect plugin reason : String) (board : Switchboard) :
    Events board (board.recordFailure number aspect plugin reason).2 := by
  have counted := events_withLedger number (·.countFailure aspect) board
  unfold recordFailure
  dsimp only
  split
  · exact counted
  · split
    · exact counted.trans (events_disableAspect number aspect plugin reason _)
    · exact counted

theorem events_decideRoot (number : Nat) (board : Switchboard) :
    Events board (board.decideRoot number).2 := by
  unfold decideRoot
  split
  · rename_i tracker known
    exact .single (.replaced known (.decided _ _))
  · exact .refl

/-- Every plain call is a row of events. -/
theorem events_step {call : Call} (plain : call.Plain) (board : Switchboard) :
    Events board (step board call).2 := by
  cases call with
  | write name value => exact .single (.served _)
  | register name value => exact events_register name value board
  | subscribe listener => exact .single (.subscribed listener)
  | dismiss id => exact .single (.dismissed id)
  | add => exact plain.elim
  | enlist number => exact .single (.enlisted number)
  | refresh => exact .single .refreshed
  | collect probe => exact events_collect probe board
  | ignoreApplications => exact plain.elim
  | disableAspect number aspect plugin reason =>
      exact events_disableAspect number aspect plugin reason board
  | enableAspect number aspect => exact (events_withLedger number _ board).tail (.served _)
  | recordFailure number aspect plugin reason =>
      exact events_recordFailure number aspect plugin reason board
  | decideRoot number => exact events_decideRoot number board

/-- Pushing ignored applications is a change of the strategy told, and a write. -/
theorem ignoreApplications_cases (number : Nat) (applications : List String) (board : Switchboard) :
    board.ignoreApplications number applications = board ∨
      ∃ old, board.strategies[number]? = some (.ignored old) ∧
        board.ignoreApplications number applications =
          (board.replace number (.ignored (distinct applications))).write
            SettingName.ignoredApplications (.list ((distinct applications).map .text)) := by
  unfold ignoreApplications
  split
  · rename_i old known
    exact .inr ⟨old, known, rfl⟩
  · exact .inl rfl

/-- A board of settings and listeners only: no strategy has come yet. -/
structure Bare (board : Switchboard) : Prop where
  strategies : board.strategies = []
  enlisted : board.enlisted = []
  active : board.active = []

theorem Bare.refresh (h : board.Bare) : board.refresh.Bare := by
  refine ⟨h.strategies, h.enlisted, ?_⟩
  simp [Switchboard.refresh, registered, h.enlisted]

theorem Bare.enlist (h : board.Bare) (number : Nat) : (board.enlist number).Bare := by
  have unknown : board.strategies[number]? = none := by simp [h.strategies]
  rw [Switchboard.enlist, unknown]
  exact h

theorem Bare.attend (h : board.Bare) (errand : Errand) : (board.attend errand).1.Bare := by
  have attended := attends board errand
  generalize board.attend errand = result at attended
  cases attended with
  | looked => exact h.refresh
  | passed => exact h
  | heard => exact ⟨h.strategies, h.enlisted, h.active⟩
  | written => exact ⟨h.strategies, h.enlisted, h.active⟩
  | rewritten => exact ⟨h.strategies, h.enlisted, h.active⟩
  | introduced => exact ⟨h.strategies, h.enlisted, h.active⟩
  | known => exact h
  | enlisted => exact h.enlist _
  | dismissed => exact ⟨h.strategies, h.enlisted, h.active⟩

theorem Bare.event (h : board.Bare) {board' : Switchboard} (event : Event board board') :
    board'.Bare := by
  cases event with
  | served requests =>
      exact serveAll_keeps (P := fun board _ => board.Bare)
        (fun _ errand _ bare => bare.attend errand) h h
  | replaced known =>
      rw [h.strategies] at known
      cases known
  | noted => exact ⟨h.strategies, h.enlisted, h.active⟩
  | enlisted number => exact h.enlist number
  | refreshed => exact h.refresh
  | subscribed => exact ⟨h.strategies, h.enlisted, h.active⟩
  | dismissed => exact ⟨h.strategies, h.enlisted, h.active⟩

end

section
variable {P : Switchboard → Prop}

/-- What every event keeps, a row of events keeps. -/
theorem Events.keeps (keeps : ∀ board board', P board → Event board board' → P board')
    {board board' : Switchboard} (start : P board) (events : Events board board') : P board' := by
  induction events with
  | refl => exact start
  | tail _ event ih => exact keeps _ _ ih event

/-- What every event keeps, and a newcomer and a strategy told anew leave alone, any call keeps. -/
theorem step_keeps (keeps : ∀ board board', P board → Event board board' → P board')
    {board : Switchboard} {call : Call} (start : P board)
    (added : ∀ s, call = .add s → P (board.add s).2)
    (told : ∀ number old applications, call = .ignoreApplications number applications →
      board.strategies[number]? = some (.ignored old) →
        P (board.replace number (.ignored (distinct applications)))) :
    P (step board call).2 := by
  by_cases plain : call.Plain
  · exact Events.keeps keeps start (events_step plain board)
  · cases call with
    | add s => exact added s rfl
    | ignoreApplications number applications =>
        change P (board.ignoreApplications number applications)
        rcases ignoreApplications_cases number applications board with same | ⟨old, known, pushed⟩
        · rwa [same]
        · rw [pushed]
          exact keeps _ _ (told number old applications rfl known) (.served _)
    | _ => exact absurd trivial plain

/-- What every event keeps, plain calls keep. -/
theorem after_keeps (keeps : ∀ board board', P board → Event board board' → P board')
    {board : Switchboard} {calls : List Call} (start : P board)
    (plain : ∀ call ∈ calls, call.Plain) : P (after step board calls) :=
  after_invariant start (fun board _ h here => Events.keeps keeps h (events_step here board)) plain

/-- Settings and listeners before any strategy comes. -/
theorem bare_after {early : List Call} (before : ∀ call ∈ early, call.OnSettings) :
    (after step {} early).Bare :=
  after_keeps (fun _ _ bare event => bare.event event) ⟨rfl, rfl, rfl⟩
    fun call member => (before call member).plain

end

end Switchboard
end SpanCapture
