import SpanCapture.Proofs.Collection.Bundle
import SpanCapture.Proofs.Collection.Settling
import SpanCapture.Proofs.Service.Calls

/-! Building a service. The configuration decides alone how it ends: a fault is answered, a buffer
beyond all memory crashes, and anything else gives a service that is ready. Registering receivers
offers them nothing yet. Building the board is a row of calls on the settings that are there
already, whatever they hold; each comes to an end unless listeners answer each other for ever. -/
namespace SpanCapture

namespace Dispatcher

def ofReceivers (capacity : Nat) (receivers : List Receiver) : Dispatcher where
  capacity := capacity
  receivers := receivers
  registered := List.range receivers.length

theorem register_ofReceivers (capacity : Nat) (known : List Receiver) (receiver : Receiver) :
    ((ofReceivers capacity known).register receiver).2 =
      ofReceivers capacity (known ++ [receiver]) := by
  have handles : List.range (known ++ [receiver]).length =
      List.range known.length ++ [known.length] := by
    rw [List.length_append, List.length_singleton, List.range_succ]
  rw [ofReceivers, ofReceivers, handles]
  rfl

theorem foldl_register (capacity : Nat) (receivers known : List Receiver) :
    receivers.foldl (fun d r => (d.register r).2) (ofReceivers capacity known) =
      ofReceivers capacity (known ++ receivers) := by
  induction receivers generalizing known with
  | nil => rw [List.foldl_nil, List.append_nil]
  | cons receiver rest ih =>
      rw [List.foldl_cons, register_ofReceivers, ih, List.append_assoc, List.singleton_append]

theorem create_of_fits {capacity : Nat} (positive : 0 < capacity)
    (fits : capacity ≤ greatestCapacity) : create capacity = .done (ofReceivers capacity []) := by
  rw [create, if_neg (Nat.ne_of_gt positive), if_neg (Nat.not_lt.mpr fits)]
  rfl

theorem create_of_exceeds {capacity : Nat} (exceeds : greatestCapacity < capacity) :
    create capacity = .crashed "capacity overflow" := by
  rw [create, if_neg (Nat.ne_of_gt (Nat.zero_lt_of_lt exceeds)), if_pos exceeds]

end Dispatcher

namespace Switchboard

/-- Strategies from outside come onto the board and into the chain, the first of them under a given
number. -/
def comings : Nat → List CustomStrategy → List Call
  | _, [] => []
  | number, s :: rest => .add (.custom s) :: .enlist number :: comings (number + 1) rest

/-- The calls that make a registry the board of a service. -/
def buildingCalls (config : Config) (custom : List CustomStrategy) (board : Switchboard) :
    List Call :=
  bundledCalls config board ++ comings 6 custom

def startStrategies (config : Config) (custom : List CustomStrategy) (board : Switchboard) :
    List Strategy :=
  [.agent, .ignored [], .endpoints (.ofPercent (startPercent config board)), .plugins,
    .aspects (emptyLedger config), .callSites []] ++ custom.map .custom

def Call.Done (m : Moment Switchboard Call Answer) : Prop :=
  ∀ request, m.call.request? = some request → (m.before.settle [.serve request]).isSome = true

section
variable {board : Switchboard} {config : Config} {custom : List CustomStrategy}

theorem length_add (s : Strategy) (board : Switchboard) :
    (board.add s).2.strategies.length = board.strategies.length + 1 := by
  rw [strategies_add, List.length_append, List.length_singleton]

theorem foldl_coming (custom : List CustomStrategy) (board : Switchboard) :
    custom.foldl (fun board s => (board.add (.custom s)).2.enlist (board.add (.custom s)).1) board =
      after step board (comings board.strategies.length custom) := by
  induction custom generalizing board with
  | nil => rfl
  | cons s rest ih =>
      rw [List.foldl_cons, ih, number_add, strategies_enlist, length_add]
      rfl

theorem strategies_comings (custom : List CustomStrategy) (number : Nat) (board : Switchboard) :
    (after step board (comings number custom)).strategies =
      board.strategies ++ custom.map .custom := by
  induction custom generalizing number board with
  | nil => exact (List.append_nil _).symm
  | cons s rest ih =>
      refine (ih (number + 1) ((board.add (.custom s)).2.enlist number)).trans ?_
      rw [strategies_enlist, strategies_add, List.append_assoc]
      rfl

theorem strategies_after_enlist (numbers : List Nat) (board : Switchboard) :
    (after step board (numbers.map .enlist)).strategies = board.strategies := by
  induction numbers generalizing board with
  | nil => rfl
  | cons number rest ih => exact (ih _).trans (strategies_enlist number board)

theorem strategies_bundledCalls (nobody : board.strategies = []) (config : Config)
    (start : Switchboard) :
    (after step board (bundledCalls config start)).strategies =
      startStrategies config [] start := by
  rw [bundledCalls, after_append, bundledEnlisted, strategies_after_enlist,
    strategies_bundling nobody]
  rfl

/-- Building the board of a service is a row of calls on the registry it is given. -/
theorem buildBoard_eq_after (nobody : board.strategies = []) (config : Config)
    (custom : List CustomStrategy) :
    Service.buildBoard config custom board =
      after step (board.subscribe .chain).2
        (buildingCalls config custom (board.subscribe .chain).2) := by
  have chained : (board.subscribe .chain).2.strategies = [] := nobody
  have bundled := strategies_bundledCalls chained config (board.subscribe .chain).2
  rw [buildBoard_custom, foldl_coming, buildBoard_eq config nobody, bundled, buildingCalls,
    after_append]
  rfl

theorem strategies_buildBoard (nobody : board.strategies = []) (config : Config)
    (custom : List CustomStrategy) :
    (Service.buildBoard config custom board).strategies =
      startStrategies config custom (board.subscribe .chain).2 := by
  have chained : (board.subscribe .chain).2.strategies = [] := nobody
  have bundled := strategies_bundledCalls chained config (board.subscribe .chain).2
  rw [buildBoard_eq_after nobody, buildingCalls, after_append, strategies_comings, bundled]
  rfl

/-- Whoever was in the chain stays in it, and all newcomers come into it. -/
theorem enlisted_comings (custom : List CustomStrategy) (board : Switchboard) :
    board.enlisted ⊆ (after step board (comings board.strategies.length custom)).enlisted ∧
      ∀ number < (after step board (comings board.strategies.length custom)).strategies.length,
        board.strategies.length ≤ number →
          number ∈ (after step board (comings board.strategies.length custom)).enlisted := by
  induction custom generalizing board with
  | nil =>
      refine ⟨List.Subset.refl _, fun number inside outside => ?_⟩
      exact absurd inside (Nat.not_lt.mpr outside)
  | cons s rest ih =>
      have one := length_add (.custom s) board
      obtain ⟨kept, others⟩ := ih ((board.add (.custom s)).2.enlist board.strategies.length)
      rw [strategies_enlist, one] at kept others
      refine ⟨List.Subset.trans (enlisted_enlist _ (board.add (.custom s)).2) kept, ?_⟩
      intro number inside outside
      rcases Nat.lt_or_eq_of_le outside with later | rfl
      · exact others number inside later
      · exact kept (mem_enlisted_enlist (one ▸ Nat.lt_succ_self _))

/-- All strategies of a service just built are in the chain. -/
theorem enlisted_buildBoard (bare : board.Bare) (config : Config) (custom : List CustomStrategy) :
    ∀ number < (Service.buildBoard config custom board).strategies.length,
      number ∈ (Service.buildBoard config custom board).enlisted := by
  have bundled := (bundled_build bare config).1
  rw [buildBoard_custom, foldl_coming]
  generalize Service.buildBoard config [] board = start at bundled
  obtain ⟨kept, others⟩ := enlisted_comings custom start
  intro number inside
  rcases Nat.lt_or_ge number 6 with early | late
  · exact kept (bundled.enlisted number early)
  · exact others number inside (bundled.count ▸ late)

/-! ### The settings -/

/-- The calls a board is built by: they make defaults known, and bring strategies. -/
def Call.Builds : Call → Prop
  | .register .. | .add _ | .enlist _ => True
  | _ => False

theorem builds_comings (number : Nat) (custom : List CustomStrategy) :
    ∀ call ∈ comings number custom, call.Builds := by
  induction custom generalizing number with
  | nil => exact nofun
  | cons s rest ih =>
      exact List.forall_mem_cons.mpr ⟨trivial, List.forall_mem_cons.mpr ⟨trivial, ih (number + 1)⟩⟩

theorem builds_buildingCalls (config : Config) (custom : List CustomStrategy)
    (board : Switchboard) : ∀ call ∈ buildingCalls config custom board, call.Builds := by
  refine List.forall_mem_append.mpr ⟨?_, builds_comings 6 custom⟩
  simp [bundledCalls, bundling, bundledEnlisted, Call.Builds]

/-- Building calls on a board whose listeners only watch come to nothing but defaults. -/
theorem Onlookers.builds (h : board.Onlookers) {call : Call} (builds : call.Builds) :
    (Switchboard.step board call).2.Onlookers ∧
      (Switchboard.step board call).2.settings = settingsAfter board.settings call := by
  cases call with
  | register name value =>
      have onSettings : (Call.register name value).OnSettings := trivial
      exact ⟨Onlookers.step h onSettings nofun, (h.told onSettings).1⟩
  | add s => exact ⟨⟨⟨h.numbered.ordered, h.numbered.given, h.numbered.unheard⟩, h.watch⟩, rfl⟩
  | enlist number =>
      change (board.enlist number).Onlookers ∧ (board.enlist number).settings = board.settings
      rcases enlist_cases number board with same | brought
      · rw [same]
        exact ⟨h, rfl⟩
      · rw [brought]
        exact ⟨⟨⟨h.numbered.ordered, h.numbered.given, h.numbered.unheard⟩, h.watch⟩, rfl⟩
  | _ => exact builds.elim

theorem Onlookers.settings_after (h : board.Onlookers) {calls : List Call}
    (builds : ∀ call ∈ calls, call.Builds) :
    (after Switchboard.step board calls).settings = calls.foldl settingsAfter board.settings := by
  induction calls generalizing board with
  | nil => rfl
  | cons call rest ih =>
      obtain ⟨here, later⟩ := List.forall_mem_cons.mp builds
      obtain ⟨onlookers, settings⟩ := h.builds here
      rw [List.foldl_cons, ← settings]
      exact ih onlookers later

def defaults (config : Config) : List Call :=
  [.register SettingName.agentDisabled (.bool false),
    .register SettingName.endpointRatio (.ofUnsigned (min config.endpointRatio 100))]

theorem settingsAfter_comings (custom : List CustomStrategy) (number : Nat) (settings : Settings) :
    (comings number custom).foldl settingsAfter settings = settings := by
  induction custom generalizing number with
  | nil => rfl
  | cons s rest ih => exact ih (number + 1)

theorem settingsAfter_buildingCalls (config : Config) (custom : List CustomStrategy)
    (board : Switchboard) (settings : Settings) :
    (buildingCalls config custom board).foldl settingsAfter settings =
      (defaults config).foldl settingsAfter settings := by
  rw [buildingCalls, List.foldl_append, settingsAfter_comings]
  rfl

theorem Onlookers.chained (h : board.Onlookers) : (board.subscribe .chain).2.Onlookers := by
  refine ⟨h.numbered.subscribe .chain, fun entry member => ?_⟩
  rcases List.mem_append.mp member with old | new
  · exact h.watch entry old
  · rw [List.mem_singleton.mp new]
    trivial

/-- Where listeners only watch, building makes the defaults known that have no value, and nothing
else. -/
theorem settings_buildBoard (nobody : board.strategies = []) (onlookers : board.Onlookers)
    (config : Config) (custom : List CustomStrategy) :
    (Service.buildBoard config custom board).settings =
      (defaults config).foldl settingsAfter board.settings := by
  rw [buildBoard_eq_after nobody, onlookers.chained.settings_after (builds_buildingCalls _ _ _),
    settingsAfter_buildingCalls]
  rfl

theorem get?_settingsAfter_register (name : String) (value : Value) (settings : Settings) :
    (settingsAfter settings (.register name value)).get? name =
      some ((settings.get? name).getD value) := by
  rw [settingsAfter]
  split
  · rename_i known
    obtain ⟨existing, stored⟩ := Option.isSome_iff_exists.mp known
    rw [stored, Option.getD_some]
  · rename_i unknown
    rw [Option.not_isSome_iff_eq_none.mp unknown, Option.getD_none, Settings.get?_introduce_self]

/-- The percentage a service starts at is the one its settings ask for. -/
theorem startPercent_eq (onlookers : board.Onlookers) (config : Config) :
    startPercent config board =
      clampPercent
        (Strategy.ratioSetting ((defaults config).foldl settingsAfter board.settings)) := by
  have onSettings : (Call.register SettingName.agentDisabled (.bool false)).OnSettings := trivial
  have known : (board.register SettingName.agentDisabled (.bool false)).2.settings =
      settingsAfter board.settings (.register SettingName.agentDisabled (.bool false)) :=
    (onlookers.told onSettings).1
  have value (settings : Settings) (default : Value) :
      (settingsAfter settings (.register SettingName.endpointRatio default)).getInt?
          SettingName.endpointRatio =
        ((settings.get? SettingName.endpointRatio).getD default).asInt? :=
    congrArg (·.bind Value.asInt?) (get?_settingsAfter_register _ default settings)
  rw [startPercent, known, Strategy.ratioSetting, defaults, List.foldl_cons, List.foldl_cons,
    List.foldl_nil, value]

/-! ### Coming to an end -/

/-- Building brings no listener. -/
theorem Call.Builds.subscribers {call : Call} (builds : call.Builds) (board : Switchboard) :
    (step board call).2.subscribers ⊆ board.subscribers := by
  cases call with
  | register name value =>
      change (board.register name value).2.subscribers ⊆ board.subscribers
      unfold Switchboard.register
      split
      · exact List.Subset.refl _
      · exact (subscribers_serveAll _ board).1.subset
  | add s => exact List.Subset.refl _
  | enlist number =>
      change (board.enlist number).subscribers ⊆ board.subscribers
      rcases enlist_cases number board with same | brought
      · rw [same]
        exact List.Subset.refl _
      · rw [brought]
        exact List.Subset.refl _
  | _ => exact builds.elim

theorem AnswersEnd.chained (h : board.AnswersEnd) : (board.subscribe .chain).2.AnswersEnd := by
  refine Subrelation.wf ?_ h
  rintro later earlier ⟨id, listener, member, answer⟩
  rcases List.mem_append.mp member with old | new
  · exact ⟨id, listener, old, answer⟩
  · cases List.mem_singleton.mp new

/-- Where no chain of answers goes on for ever, every building call comes to an end. -/
theorem AnswersEnd.done (h : board.AnswersEnd) {calls : List Call}
    (builds : ∀ call ∈ calls, call.Builds) : ∀ m ∈ moments step board calls, Call.Done m := by
  induction calls generalizing board with
  | nil => exact List.forall_mem_nil _
  | cons call rest ih =>
      obtain ⟨here, later⟩ := List.forall_mem_cons.mp builds
      refine List.forall_mem_cons.mpr ⟨fun request _ => h.settle [request], ?_⟩
      exact ih (h.mono (here.subscribers board)) later

/-- Where the first who listens turns every switch back, building never comes to an end: the switch
of the agent is turned back for ever. -/
theorem not_done_of_contrary {id : Nat} {others : List (Nat × Subscriber)}
    (foremost : board.subscribers = (id, .listener contrary) :: others)
    (unknown : board.settings.get? SettingName.agentDisabled = none) (config : Config)
    (custom : List CustomStrategy) :
    ¬∀ m ∈ moments step (board.subscribe .chain).2
        (buildingCalls config custom (board.subscribe .chain).2), Call.Done m := by
  intro done
  have settled := (List.forall_mem_cons.mp done).1 _ rfl
  have chained : (board.subscribe .chain).2.subscribers =
      (id, .listener contrary) :: (others ++ [(board.nextId, .chain)]) :=
    congrArg (· ++ [(board.nextId, Subscriber.chain)]) foremost
  have never := settle_contrary chained unknown false
  exact absurd settled (never ▸ Bool.false_ne_true)

end

end Switchboard

namespace Service
open Switchboard

/-- A service as a setup asks for it, with nothing recorded yet. -/
structure Ready (setup : Setup) (s : Service) : Prop where
  config : s.config = setup.config
  analyzers : s.analyzers = setup.analyzers
  dispatcher : s.dispatcher = .ofReceivers setup.config.bufferCapacity setup.receivers
  contexts : s.contexts = []
  /-- The board is what a row of calls makes of the given one. -/
  board : setup.board.Bare → s.board = after Switchboard.step (setup.board.subscribe .chain).2
    (buildingCalls setup.config setup.strategies (setup.board.subscribe .chain).2)
  strategies : setup.board.Bare → s.board.strategies =
    startStrategies setup.config setup.strategies (setup.board.subscribe .chain).2
  enlisted : setup.board.Bare → ∀ number < s.board.strategies.length, number ∈ s.board.enlisted
  /-- Settings that are there already stay as they are. -/
  settings : setup.board.Bare → setup.board.Onlookers →
    s.board.settings = (defaults setup.config).foldl settingsAfter setup.board.settings
  percent : setup.board.Bare → setup.board.Onlookers →
    startPercent setup.config (setup.board.subscribe .chain).2 =
      clampPercent (Strategy.ratioSetting s.board.settings)

section
variable {setup : Setup}

theorem build_of_valid (valid : setup.config.validate = .ok setup.config) :
    build setup = (Dispatcher.create setup.config.bufferCapacity).map fun dispatcher => .ok {
      config := setup.config
      board := buildBoard setup.config setup.strategies setup.board
      analyzers := setup.analyzers
      assembler := {
        server := setup.config.serverName, diagnoseUnknown := setup.config.diagnoseUnknown
        resolver := setup.resolver, callStack := setup.callStack }
      dispatcher := setup.receivers.foldl (fun d r => (d.register r).2) dispatcher
      clock := setup.clock
      threadName := setup.threadName
      threadId := setup.threadId
      freshIds := setup.freshIds
      watched := setup.watched } := by
  rw [build, valid]

theorem positive_of_valid {config : Config} (valid : config.validate = .ok config) :
    0 < config.bufferCapacity := by
  have faultless : config.fault? = none := by
    unfold Config.validate at valid
    split at valid
    · cases valid
    · assumption
  exact ((Config.fault?_eq_none_iff config).mp faultless).2.2.2.1

theorem ready_of_fits (valid : setup.config.validate = .ok setup.config)
    (fits : setup.config.bufferCapacity ≤ Dispatcher.greatestCapacity) :
    ∃ s, build setup = .done (.ok s) ∧ s.Ready setup := by
  rw [build_of_valid valid, Dispatcher.create_of_fits (positive_of_valid valid) fits]
  refine ⟨_, rfl, ?_⟩
  constructor
  case config => rfl
  case analyzers => rfl
  case dispatcher => exact Dispatcher.foldl_register _ setup.receivers []
  case contexts => rfl
  case board => exact fun bare => buildBoard_eq_after bare.strategies _ _
  case strategies => exact fun bare => strategies_buildBoard bare.strategies _ _
  case enlisted => exact fun bare => enlisted_buildBoard bare _ _
  case settings => exact fun bare onlookers => settings_buildBoard bare.strategies onlookers _ _
  case percent =>
    intro bare onlookers
    rw [startPercent_eq onlookers.chained, settings_buildBoard bare.strategies onlookers]
    rfl

theorem build_of_exceeds (valid : setup.config.validate = .ok setup.config)
    (exceeds : Dispatcher.greatestCapacity < setup.config.bufferCapacity) :
    build setup = .crashed "capacity overflow" := by
  rw [build_of_valid valid, Dispatcher.create_of_exceeds exceeds]
  rfl

/-- A valid configuration decides alone whether a service is built. If its buffer is greater than
any memory, building crashes; any other gives a service that is ready, whatever settings, analyzers,
strategies and receivers it is given. All that is asked for on the way is done, unless listeners
answer each other for ever. -/
theorem builds_unless_buffer_too_great (valid : setup.config.validate = .ok setup.config) :
    (Dispatcher.greatestCapacity < setup.config.bufferCapacity →
        build setup = .crashed "capacity overflow") ∧
      (setup.config.bufferCapacity ≤ Dispatcher.greatestCapacity →
        ∃ s, build setup = .done (.ok s) ∧ s.Ready setup) ∧
      (setup.board.AnswersEnd → ∀ m ∈ moments Switchboard.step (setup.board.subscribe .chain).2
        (buildingCalls setup.config setup.strategies (setup.board.subscribe .chain).2),
          Call.Done m) := by
  refine ⟨build_of_exceeds valid, ready_of_fits valid, fun answersEnd => ?_⟩
  exact answersEnd.chained.done (builds_buildingCalls _ _ _)

end

def turningOn : Listener where
  label := "on"
  react := fun _ name value => match value with
    | .bool false => [.write name (.bool true)]
    | _ => []

/-- Every limit at an end of its range, the greatest buffer there is memory for, and a percentage
that is there already and too great. -/
def extreme : Setup :=
  { Setup.plain with
    config := {
      maxFrames := 1, maxTraceSeconds := twoTo 64 - 1, watchdogMillis := 1
      bufferCapacity := Dispatcher.greatestCapacity, endpointRatio := 0, aspectThreshold := 0 }
    board := {
      settings := { values := [(SettingName.endpointRatio, .int 250)] }
      subscribers := [(0, .listener turningOn)]
      nextId := 1 }
    receivers := [{ label := "kept", sink := .collecting [] }] }

/-- What is turned on is not answered. -/
theorem answersEnd_extreme : extreme.board.AnswersEnd := by
  have answer {earlier later : String × Value} (provoked : extreme.board.Provokes earlier later) :
      earlier.2 = .bool false ∧ later.2 = .bool true := by
    obtain ⟨id, listener, member, journal, request, asked, gives⟩ := provoked
    cases List.mem_singleton.mp member
    simp only [turningOn] at asked
    split at asked
    · rename_i off
      cases List.mem_singleton.mp asked
      cases gives
      exact ⟨off, rfl⟩
    · cases asked
  refine ⟨fun first => ⟨first, fun second provoked => ⟨second, fun third again => ?_⟩⟩⟩
  have both : Value.bool true = .bool false := (answer provoked).2.symm.trans (answer again).1
  cases both

/-- The extreme setup builds: the percentage is brought into its bounds, and the switch of the agent
is on, as the listener wants it. -/
theorem extreme_builds :
    extreme.config.validate = .ok extreme.config ∧ extreme.board.AnswersEnd ∧
      (∃ s, build extreme = .done (.ok s) ∧ s.Ready extreme ∧
        s.board.strategies = [.agent, .ignored [], .endpoints (.ofPercent 100), .plugins,
          .aspects { threshold := 1 }, .callSites []] ∧
        s.board.settings.getBool? SettingName.agentDisabled = some true) ∧
      ∀ m ∈ moments Switchboard.step (extreme.board.subscribe .chain).2
        (buildingCalls extreme.config [] (extreme.board.subscribe .chain).2), Call.Done m := by
  have valid : extreme.config.validate = .ok extreme.config := rfl
  have bare : extreme.board.Bare := ⟨rfl, rfl, rfl⟩
  obtain ⟨-, fits, ends⟩ := builds_unless_buffer_too_great valid
  obtain ⟨s, built, ready⟩ := fits (Nat.le_refl _)
  refine ⟨valid, answersEnd_extreme, ⟨s, built, ready, ?_, ?_⟩, ends answersEnd_extreme⟩
  · have percent : startPercent extreme.config (extreme.board.subscribe .chain).2 = 100 := by decide
    rw [ready.strategies bare, startStrategies, percent]
    rfl
  · rw [ready.board bare]
    rfl

/-- One place more than there can be memory for. -/
def overfull : Setup :=
  { Setup.plain with config := { bufferCapacity := Dispatcher.greatestCapacity + 1 } }

theorem overfull_valid_but_crashes :
    overfull.config.validate = .ok overfull.config ∧
      build overfull = .crashed "capacity overflow" ∧
      ¬∀ setup : Setup, setup.config.validate = .ok setup.config →
        ∃ s, build setup = .done (.ok s) := by
  have valid : overfull.config.validate = .ok overfull.config := rfl
  have crashed : build overfull = .crashed "capacity overflow" :=
    build_of_exceeds valid (Nat.lt_succ_self _)
  refine ⟨valid, crashed, fun every => ?_⟩
  obtain ⟨s, built⟩ := every overfull valid
  rw [crashed] at built
  cases built

end Service
end SpanCapture
