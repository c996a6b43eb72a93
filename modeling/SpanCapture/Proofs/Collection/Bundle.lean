import SpanCapture.Proofs.Collection.ActiveSnapshot
import SpanCapture.Service.Basic

/-! The board of a service. Building it is a row of calls; after them, and after all that is asked
of it later, the six bundled strategies stand in their places and are in the chain. -/
namespace SpanCapture
namespace Switchboard

section
variable {board board' : Switchboard} {errand : Errand}

theorem strategies_register (name : String) (value : Value) (board : Switchboard) :
    (board.register name value).2.strategies = board.strategies := by
  unfold register
  split
  · rfl
  · exact strategies_serveAll _ board

theorem Sound.attend (sound : board.settings.Sound) (errand : Errand) :
    (board.attend errand).1.settings.Sound := by
  have attended := attends board errand
  generalize board.attend errand = result at attended
  cases attended with
  | @written name value differs =>
      have written := sound.write name value
      rwa [Settings.write_of_differs name value _ differs] at written
  | @rewritten name value same =>
      have written := sound.write name value
      rwa [Settings.write_of_same name value _ same] at written
  | introduced => exact sound.introduce _ _
  | enlisted =>
      unfold Switchboard.enlist
      split
      · exact sound
      · exact sound
  | _ => exact sound

theorem Sound.serveAll {board : Switchboard} (sound : board.settings.Sound)
    (requests : List Request) : (board.serveAll requests).settings.Sound :=
  serveAll_keeps (P := fun board _ => board.settings.Sound)
    (fun _ errand _ sound => Sound.attend sound errand) sound sound

theorem Sound.event (sound : board.settings.Sound) (event : Event board board') :
    board'.settings.Sound := by
  cases event with
  | served requests => exact Sound.serveAll sound requests
  | enlisted number => exact Sound.attend sound (.serve (.enlist number))
  | _ => exact sound

/-- Whatever is asked of a board, whoever is written has a value. -/
theorem Sound.step (sound : board.settings.Sound) (call : Call) :
    (step board call).2.settings.Sound :=
  step_keeps (P := fun board => board.settings.Sound) (fun _ _ => Sound.event) sound
    (fun _ _ => sound) fun _ _ _ _ _ => sound

theorem Sound.after (sound : board.settings.Sound) (calls : List Call) :
    (after Switchboard.step board calls).settings.Sound :=
  after_invariant (P := fun board : Switchboard => board.settings.Sound) sound
    (fun _ call sound _ => Sound.step sound call) fun _ _ => trivial

theorem value_register (name : String) (value : Value) (board : Switchboard) :
    (board.register name value).1 = (board.settings.get? name).getD value := by
  unfold register
  split
  · rename_i stored
    rw [stored, Option.getD_some]
  · rename_i unknown
    rw [unknown, Option.getD_none]

/-- The places of the bundled strategies. Nobody was told to ignore an application. -/
inductive BundledAt : Nat → Strategy → Prop
  | agent : BundledAt 0 .agent
  | ignored : BundledAt 1 (.ignored [])
  | endpoints (tracker : RatioTracker) : BundledAt 2 (.endpoints tracker)
  | plugins : BundledAt 3 .plugins
  | aspects (ledger : AspectLedger) : BundledAt 4 (.aspects ledger)
  | callSites (discovered : List String) : BundledAt 5 (.callSites discovered)

theorem BundledAt.becomes {number : Nat} {s s' : Strategy} (h : BundledAt number s)
    (becomes : s.Becomes s') : BundledAt number s' := by
  cases becomes with
  | same => exact h
  | decided _ tracker =>
      cases h
      exact .endpoints tracker
  | noted _ ledger =>
      cases h
      exact .aspects ledger
  | discovered _ discovered =>
      cases h
      exact .callSites discovered

/-- The bundled strategies are in their places and in the chain, and nobody else is there. -/
structure Bundled (board : Switchboard) : Prop where
  count : board.strategies.length = 6
  places : ∀ {number : Nat} {s : Strategy}, board.strategies[number]? = some s → BundledAt number s
  enlisted : ∀ number < 6, number ∈ board.enlisted

theorem Bundled.standing (h : board.Bundled) {number : Nat} (inside : number < 6) :
    ∃ s, board.strategies[number]? = some s ∧ BundledAt number s := by
  rw [← h.count] at inside
  have known := List.getElem?_eq_getElem inside
  exact ⟨_, known, h.places known⟩

theorem Bundled.continues (h : board.Bundled) (continues : board.Continues board') :
    board'.Bundled := by
  refine ⟨continues.count.trans h.count, ?_, ?_⟩
  · intro number s' known'
    obtain ⟨s, known, becomes⟩ := continues.origin known'
    exact (h.places known).becomes becomes
  · exact fun number inside => continues.enlisted (h.enlisted number inside)

theorem Bundled.after (h : board.Bundled) {calls : List Call}
    (plain : ∀ call ∈ calls, call.Plain) : (after step board calls).Bundled :=
  after_keeps (fun _ _ h event => Bundled.continues h event.continues) h plain

def bundling (percent : Nat) (tracker : RatioTracker) (ledger : AspectLedger) : List Call :=
  [.register SettingName.agentDisabled (.bool false), .add .agent, .add (.ignored []),
    .register SettingName.endpointRatio (.ofUnsigned (min percent 100)),
    .add (.endpoints tracker), .add .plugins, .add (.aspects ledger), .add (.callSites [])]

def bundledEnlisted : List Call := [0, 1, 2, 3, 4, 5].map .enlist

theorem number_add (s : Strategy) (board : Switchboard) :
    (board.add s).1 = board.strategies.length := rfl

theorem strategies_add (s : Strategy) (board : Switchboard) :
    (board.add s).2.strategies = board.strategies ++ [s] := rfl

theorem strategies_bundling (nobody : board.strategies = []) (percent : Nat)
    (tracker : RatioTracker) (ledger : AspectLedger) :
    (after step board (bundling percent tracker ledger)).strategies =
      [.agent, .ignored [], .endpoints tracker, .plugins, .aspects ledger, .callSites []] := by
  simp [bundling, SpanCapture.after, step, Switchboard.add, strategies_register, nobody]

/-- The percentage to start at: what stands in its setting when the switch of the agent is known, or
the configured one if nothing does, kept within its bounds. -/
def startPercent (config : Config) (board : Switchboard) : Nat :=
  let settings := (board.register SettingName.agentDisabled (.bool false)).2.settings
  let value := (settings.get? SettingName.endpointRatio).getD
    (.ofUnsigned (min config.endpointRatio 100))
  clampPercent (value.asInt?.getD 0).toInt

def emptyLedger (config : Config) : AspectLedger := { threshold := max config.aspectThreshold 1 }

def bundledCalls (config : Config) (board : Switchboard) : List Call :=
  bundling config.endpointRatio (.ofPercent (startPercent config board)) (emptyLedger config) ++
    bundledEnlisted

-- What registering and enlisting come to plays no part here, and is not to be looked into.
attribute [local irreducible] register enlist

/-- Building the board of a service, bundled strategies only, is a row of calls. -/
theorem buildBoard_eq (config : Config) (nobody : board.strategies = []) :
    Service.buildBoard config [] board =
      after step (board.subscribe .chain).2 (bundledCalls config (board.subscribe .chain).2) := by
  let known := ((board.subscribe .chain).2.register SettingName.agentDisabled (.bool false)).2
  let agent := known.add .agent
  let ignored := agent.2.add (.ignored [])
  let ratio := ignored.2.register SettingName.endpointRatio
    (.ofUnsigned (min config.endpointRatio 100))
  let tracker : RatioTracker := .ofPercent (clampPercent (ratio.1.asInt?.getD 0).toInt)
  let endpoints := ratio.2.add (.endpoints tracker)
  let plugins := endpoints.2.add .plugins
  let aspects := plugins.2.add (.aspects (emptyLedger config))
  let sites := aspects.2.add (.callSites [])
  have built : Service.buildBoard config [] board =
      [agent.1, ignored.1, endpoints.1, plugins.1, aspects.1, sites.1].foldl
        (fun board number => board.enlist number) sites.2 := rfl
  have before : known.strategies = [] := (strategies_register _ _ _).trans nobody
  have between : ratio.2.strategies = ignored.2.strategies := strategies_register _ _ _
  have numbers : [agent.1, ignored.1, endpoints.1, plugins.1, aspects.1, sites.1] =
      [0, 1, 2, 3, 4, 5] := by
    simp only [sites, aspects, plugins, endpoints, number_add, strategies_add, between]
    simp only [ignored, agent, number_add, strategies_add, before, List.nil_append, List.length_nil,
      List.length_cons, List.length_append, Nat.zero_add, Nat.reduceAdd]
  have start : tracker = .ofPercent (startPercent config (board.subscribe .chain).2) :=
    congrArg (fun v : Value => RatioTracker.ofPercent (clampPercent (v.asInt?.getD 0).toInt))
      (value_register _ _ ignored.2)
  rw [bundledCalls, after_append, built, numbers, ← start]
  rfl

theorem buildBoard_nil (config : Config) (nobody : board.strategies = []) :
    ∃ tracker ledger, Service.buildBoard config [] board =
      after step (board.subscribe .chain).2
        (bundling config.endpointRatio tracker ledger ++ bundledEnlisted) :=
  ⟨_, _, buildBoard_eq config nobody⟩

/-- Strategies supplied from outside come behind the bundled ones. -/
theorem buildBoard_custom (config : Config) (custom : List CustomStrategy) (board : Switchboard) :
    Service.buildBoard config custom board =
      custom.foldl (fun board s => (board.add (.custom s)).2.enlist (board.add (.custom s)).1)
        (Service.buildBoard config [] board) := rfl

/-- What newcomers to the chain leave alone, a board has if it has it before any comes. -/
theorem buildBoard_keeps {P : Switchboard → Prop} {config : Config}
    (bare : P (Service.buildBoard config [] board))
    (came : ∀ board s, P board → P ((board.add (.custom s)).2.enlist (board.add (.custom s)).1))
    (custom : List CustomStrategy) : P (Service.buildBoard config custom board) := by
  rw [buildBoard_custom]
  generalize Service.buildBoard config [] board = now at bare
  induction custom generalizing now with
  | nil => exact bare
  | cons s rest ih => exact ih _ (came now s bare)

/-- Whoever is asked to come into the chain is in it then. -/
theorem enlisted_after_enlist (numbers : List Nat) (board : Switchboard)
    (known : ∀ number ∈ numbers, number < board.strategies.length) :
    let board' := after step board (numbers.map .enlist)
    board'.strategies = board.strategies ∧ board.enlisted ⊆ board'.enlisted ∧
      ∀ number ∈ numbers, number ∈ board'.enlisted := by
  induction numbers generalizing board with
  | nil => exact ⟨rfl, List.Subset.refl _, nofun⟩
  | cons number rest ih =>
      obtain ⟨here, later⟩ := List.forall_mem_cons.mp known
      have same := strategies_enlist number board
      obtain ⟨stay, kept, came⟩ := ih (board.enlist number) (same ▸ later)
      refine ⟨stay.trans same, List.Subset.trans (enlisted_enlist number board) kept, ?_⟩
      exact List.forall_mem_cons.mpr ⟨kept (mem_enlisted_enlist here), came⟩

theorem bundled_after_enlist {tracker : RatioTracker} {ledger : AspectLedger}
    (all : board.strategies =
      [.agent, .ignored [], .endpoints tracker, .plugins, .aspects ledger, .callSites []]) :
    (after step board bundledEnlisted).Bundled := by
  obtain ⟨same, -, came⟩ := enlisted_after_enlist [0, 1, 2, 3, 4, 5] board (by simp [all])
  rw [all] at same
  unfold bundledEnlisted
  refine ⟨congrArg List.length same, ?_, ?_⟩
  · intro number s known
    have inside := (List.getElem?_eq_some_iff.mp known).1
    rw [same] at known inside
    match number, inside with
    | 0, _ => cases known; exact .agent
    | 1, _ => cases known; exact .ignored
    | 2, _ => cases known; exact .endpoints tracker
    | 3, _ => cases known; exact .plugins
    | 4, _ => cases known; exact .aspects ledger
    | 5, _ => cases known; exact .callSites []
  · intro number inside
    refine came number ?_
    simp only [List.mem_cons, List.not_mem_nil]
    omega

theorem keeps_bundling (percent : Nat) (tracker : RatioTracker) (ledger : AspectLedger) :
    ∀ call ∈ bundling percent tracker ledger ++ bundledEnlisted, call.KeepsActivity := by
  have isLocal : ∀ {s : Strategy}, s.IsBundled → s.Local := Strategy.IsBundled.isLocal
  simp only [bundling, bundledEnlisted, List.forall_mem_append, List.forall_mem_cons,
    List.forall_mem_map, Call.KeepsActivity]
  refine ⟨⟨trivial, isLocal trivial, isLocal trivial, trivial, isLocal trivial, isLocal trivial,
    isLocal trivial, isLocal trivial, List.forall_mem_nil _⟩, ?_⟩
  simp

/-- On a new board of a service the bundled strategies are in their places, and the chain is up
to date. -/
theorem bundled_build (bare : board.Bare) (config : Config) :
    (Service.buildBoard config [] board).Bundled ∧ (Service.buildBoard config [] board).Abreast [] := by
  obtain ⟨tracker, ledger, built⟩ := buildBoard_nil config bare.strategies
  have abreast := bare.abreast.after (keeps_bundling config.endpointRatio tracker ledger)
  refine ⟨?_, built ▸ abreast⟩
  have nobody : (board.subscribe .chain).2.strategies = [] := bare.strategies
  rw [built, after_append]
  exact bundled_after_enlist (strategies_bundling nobody _ tracker ledger)

theorem sound_build (bare : board.Bare) (sound : board.settings.Sound) (config : Config) :
    (Service.buildBoard config [] board).settings.Sound := by
  obtain ⟨tracker, ledger, built⟩ := buildBoard_nil config bare.strategies
  have subscribed : (board.subscribe .chain).2.settings.Sound := sound
  rw [built]
  exact Sound.after subscribed _

/-- Whatever was done about settings before the board was built, and whatever plain calls came
since: the bundled strategies stand in their places, the chain is up to date, and whoever is written
has a value. -/
theorem bundled_after {early calls : List Call} (before : ∀ call ∈ early, call.OnSettings)
    (plain : ∀ call ∈ calls, call.Plain) (config : Config) :
    let board := after step (Service.buildBoard config [] (after step {} early)) calls
    board.Bundled ∧ board.Abreast [] ∧ board.settings.Sound := by
  intro board
  have bare := bare_after before
  obtain ⟨built, fresh⟩ := bundled_build bare config
  have empty : Settings.Sound {} := nofun
  refine ⟨built.after plain, ?_, ?_⟩
  · exact after_keeps (P := fun board => board.Abreast []) (fun _ _ h event => h.event event)
      fresh plain
  · exact Sound.after (sound_build bare (Sound.after empty early) config) calls

end

end Switchboard
end SpanCapture
