import SpanCapture.Proofs.Collection.Admission
import SpanCapture.Proofs.Collection.Bundle

/-! The verdict of the bundled strategies is what the settings say. The chain asks only those it
has noted as active; as its note is up to date, and a bundled strategy that is not active has
nothing against a probe, passing over the others changes no verdict. Showing the probe to all
strategies first makes its switches known, on, and that changes nothing either. -/
namespace SpanCapture
namespace Switchboard

section
variable {board board' : Switchboard} {probe : Probe} {number : Nat} {s : Strategy}

theorem BundledAt.isBundled (h : BundledAt number s) : s.IsBundled := by
  cases h with
  | _ => trivial

theorem judge_bundled (known : board.strategies[number]? = some s) (bundled : s.IsBundled)
    (probe : Probe) : board.judge number probe = (s.collect board.settings probe, board) := by
  rw [judge, known]
  cases s with
  | custom => exact bundled.elim
  | _ => rfl

/-- Bundled strategies judge by the settings, and change nothing. -/
theorem judgeAll_bundled (probe : Probe) {numbers : List Nat}
    (each : ∀ number ∈ numbers, ∃ s, board.strategies[number]? = some s ∧ s.IsBundled) :
    (board.judgeAll probe numbers).2 = board ∧
      ((board.judgeAll probe numbers).1 = true ↔ ∀ number ∈ numbers, ∀ s,
        board.strategies[number]? = some s → s.collect board.settings probe ≠ .done false) := by
  induction numbers with
  | nil => exact ⟨rfl, by simp [judgeAll]⟩
  | cons number rest ih =>
      obtain ⟨⟨s, known, bundled⟩, later⟩ := List.forall_mem_cons.mp each
      obtain ⟨same, verdict⟩ := ih later
      have judged := judge_bundled known bundled probe
      by_cases rejected : s.collect board.settings probe = .done false
      · rw [judgeAll_rejected (by rw [judged, rejected]), judged]
        refine ⟨rfl, fun accepted => absurd accepted Bool.false_ne_true, ?_⟩
        intro accepted
        exact absurd rejected (accepted number List.mem_cons_self s known)
      · rw [judgeAll_passed (by rw [judged]; exact rejected), judged, verdict, List.forall_mem_cons]
        refine ⟨same, ?_⟩
        constructor
        · intro accepted
          refine ⟨fun t there => ?_, accepted⟩
          cases known.symm.trans there
          exact rejected
        · exact fun accepted => accepted.2

/-- All members of the chain pass a probe exactly if the settings admit it. -/
theorem Bundled.passes_iff_admits (h : board.Bundled) :
    (∀ number ∈ board.enlisted, ∀ s, board.strategies[number]? = some s →
      s.Passes board.settings probe) ↔ board.settings.Admits probe := by
  constructor
  · intro passes
    have each (number : Nat) (inside : number < 6) :
        ∃ s, BundledAt number s ∧ s.Passes board.settings probe := by
      obtain ⟨s, known, place⟩ := h.standing inside
      exact ⟨s, place, passes number (h.enlisted number inside) s known⟩
    refine ⟨?_, ?_, ?_, ?_, ?_⟩
    · obtain ⟨_, ⟨⟩, agent⟩ := each 0 (by decide)
      exact Strategy.passes_agent.mp agent
    · obtain ⟨_, ⟨⟩, endpoints⟩ := each 2 (by decide)
      exact Strategy.passes_endpoints.mp endpoints
    · obtain ⟨_, ⟨⟩, plugins⟩ := each 3 (by decide)
      exact Strategy.passes_plugins.mp plugins
    · obtain ⟨_, ⟨⟩, aspects⟩ := each 4 (by decide)
      exact Strategy.passes_aspects.mp aspects
    · obtain ⟨_, ⟨⟩, callSites⟩ := each 5 (by decide)
      exact Strategy.passes_callSites.mp callSites
  · intro admits number _ s known
    cases h.places known with
    | agent => exact Strategy.passes_agent.mpr admits.agent
    | ignored => exact Strategy.passes_ignored_nobody
    | endpoints => exact Strategy.passes_endpoints.mpr admits.endpoints
    | plugins => exact Strategy.passes_plugins.mpr admits.plugin
    | aspects => exact Strategy.passes_aspects.mpr admits.aspect
    | callSites => exact Strategy.passes_callSites.mpr admits.site

/-- The active strategies let a probe pass exactly if the settings admit it. -/
theorem judgeAll_active (h : board.Bundled) (abreast : board.Abreast []) (probe : Probe) :
    (board.judgeAll probe board.active).2 = board ∧
      ((board.judgeAll probe board.active).1 = true ↔ board.settings.Admits probe) := by
  have member (number : Nat) : number ∈ board.active ↔
      number ∈ board.enlisted ∧ board.isActiveNow number = true := by
    rw [abreast.fresh, List.mem_filter, mem_registered]
  have each : ∀ number ∈ board.active, ∃ s, board.strategies[number]? = some s ∧ s.IsBundled := by
    intro number active
    have inside := abreast.wired.known number ((member number).mp active).1
    have known := List.getElem?_eq_getElem inside
    exact ⟨_, known, (h.places known).isBundled⟩
  obtain ⟨same, verdict⟩ := judgeAll_bundled probe each
  refine ⟨same, ?_⟩
  rw [verdict, ← h.passes_iff_admits]
  have asked {number : Nat} {s : Strategy} (known : board.strategies[number]? = some s) :
      board.isActiveNow number = s.isActive board.settings := by
    rw [isActiveNow, known, Option.map_some, Option.getD_some]
  constructor
  · intro accepted number enlisted s known active
    exact accepted number ((member number).mpr ⟨enlisted, (asked known).trans active⟩) s known
  · intro passes number active s known
    obtain ⟨enlisted, now⟩ := (member number).mp active
    exact passes number enlisted s known ((asked known).symm.trans now)

def Quiet (board : Switchboard) : Prop :=
  ∀ id listener, (id, Subscriber.listener listener) ∈ board.subscribers →
    ∀ journal name value, listener.react journal name value = []

inductive Idle : Errand → Prop
  | chain (id : Nat) (name : String) (value : Value) : Idle (.tell id .chain name value)
  | listener {listener : Listener} (id : Nat) (name : String) (value : Value)
      (silent : ∀ journal name value, listener.react journal name value = []) :
      Idle (.tell id (.listener listener) name value)

theorem Quiet.announce (quiet : board.Quiet) (name : String) (value : Value) :
    ∀ errand ∈ board.announce name value, Idle errand := by
  intro errand member
  obtain ⟨⟨id, subscriber⟩, there, rfl⟩ := List.mem_map.mp member
  cases subscriber with
  | chain => exact .chain id name value
  | listener listener => exact .listener id name value (quiet id listener there)

/-- Notices to those who ask for nothing are soon told, and leave settings and subscribers. -/
theorem settle_idle {errands : List Errand} (idle : ∀ errand ∈ errands, Idle errand)
    (board : Switchboard) : ∃ last, board.settle errands = some last ∧
      last.settings = board.settings ∧ last.subscribers = board.subscribers := by
  induction errands generalizing board with
  | nil => exact ⟨board, settle_nil board, rfl, rfl⟩
  | cons errand rest ih =>
      obtain ⟨here, later⟩ := List.forall_mem_cons.mp idle
      have told : (board.attend errand).1.settings = board.settings ∧
          (board.attend errand).1.subscribers = board.subscribers ∧ (board.attend errand).2 = [] := by
        have attended := attends board errand
        generalize board.attend errand = result at attended
        cases here with
        | chain =>
            cases attended with
            | looked => exact ⟨rfl, rfl, rfl⟩
            | passed => exact ⟨rfl, rfl, rfl⟩
        | listener _ _ _ silent =>
            cases attended with
            | heard => exact ⟨rfl, rfl, congrArg (List.map _) (silent _ _ _)⟩
      obtain ⟨settings, subscribers, nothing⟩ := told
      obtain ⟨last, settled, sameSettings, sameSubscribers⟩ := ih later (board.attend errand).1
      refine ⟨last, ?_, sameSettings.trans settings, sameSubscribers.trans subscribers⟩
      rw [settle_cons, nothing]
      exact settled

/-- A request whose notices go to those who ask for nothing does no more than it says. -/
theorem serve_quiet (request : Request)
    (idle : ∀ errand ∈ (board.attend (.serve request)).2, Idle errand) :
    (board.serve request).settings = (board.attend (.serve request)).1.settings ∧
      (board.serve request).subscribers = (board.attend (.serve request)).1.subscribers := by
  obtain ⟨last, settled, settings, subscribers⟩ :=
    settle_idle idle (board.attend (.serve request)).1
  have served : board.serve request = last := by
    rw [serve, serveAll_eq]
    change (board.settle [.serve request]).getD board = last
    rw [settle_cons, List.append_nil, settled]
    rfl
  rw [served]
  exact ⟨settings, subscribers⟩

/-- A write where no listener asks for anything does to the settings what it says. -/
theorem write_quiet (quiet : board.Quiet) (name : String) (value : Value) :
    (board.write name value).settings = (board.settings.write name value).2 ∧
      (board.write name value).subscribers = board.subscribers := by
  refine serve_quiet (.write name value) ?_
  have attended := attends board (.serve (.write name value))
  generalize board.attend _ = result at attended
  cases attended with
  | written => exact quiet.announce name value
  | rewritten => exact nofun

/-- A switch made known where no listener asks for anything is known then, and that is all. -/
theorem register_quiet (quiet : board.Quiet) (switch : String) :
    let board' := (board.register switch (.bool true)).2
    board'.subscribers = board.subscribers ∧
      Settings.Learns (· = switch) board.settings board'.settings ∧
      (board'.settings.get? switch).isSome := by
  unfold register
  split
  · rename_i value known
    exact ⟨rfl, .refl _ _, by rw [known]; rfl⟩
  · rename_i unknown
    have first : board.attend (.serve (.register switch (.bool true))) =
        ({ board with settings := board.settings.introduce switch (.bool true) },
          board.announce switch (.bool true)) := by
      rw [attend, unknown]
      rfl
    have idle : ∀ errand ∈ (board.attend (.serve (.register switch (.bool true)))).2,
        Idle errand := by
      rw [first]
      exact quiet.announce _ _
    obtain ⟨settings, subscribers⟩ := serve_quiet _ idle
    rw [first] at settings subscribers
    dsimp only
    rw [settings]
    refine ⟨subscribers, .introduce unknown rfl, ?_⟩
    rw [Settings.get?_introduce_self]
    rfl

/-- Showing a probe where no listener asks for anything makes the switch of the strategy known. -/
theorem observe_learns (h : board.Bundled) (quiet : board.Quiet) (number : Nat) (probe : Probe) :
    let board' := (board.observe number probe).2
    board'.subscribers = board.subscribers ∧
      Settings.Learns (· ∈ probe.switches) board.settings board'.settings ∧
      ∀ s switch, board.strategies[number]? = some s → s.switchOf? probe = some switch →
        (board'.settings.get? switch).isSome := by
  unfold observe
  split
  · rename_i nobody
    refine ⟨rfl, .refl _ _, fun s switch known => ?_⟩
    rw [nobody] at known
    cases known
  · rename_i known
    exact (h.places known).isBundled.elim
  · rename_i s _ known
    split
    · rename_i none
      refine ⟨rfl, .refl _ _, fun t switch there own => ?_⟩
      cases known.symm.trans there
      rw [none] at own
      cases own
    · rename_i switch own
      let board' := board.replace number (s.remember board.settings switch)
      have quiet' : board'.Quiet := quiet
      obtain ⟨subscribers, learns, now⟩ := register_quiet quiet' switch
      refine ⟨subscribers, learns.mono ?_, fun t other there theirs => ?_⟩
      · rintro _ rfl
        exact Probe.mem_switches_of_switchOf? own
      · cases known.symm.trans there
        cases own.symm.trans theirs
        exact now

/-- Showing a probe to several strategies makes the switches they have for it known. -/
theorem observeAll_learns (numbers : List Nat) (h : board.Bundled) (quiet : board.Quiet)
    (probe : Probe) :
    let board' := board.observeAll probe numbers
    board'.subscribers = board.subscribers ∧
      Settings.Learns (· ∈ probe.switches) board.settings board'.settings ∧
      ∀ number ∈ numbers, ∀ s switch, board.strategies[number]? = some s →
        s.switchOf? probe = some switch → (board'.settings.get? switch).isSome := by
  induction numbers generalizing board with
  | nil => exact ⟨rfl, .refl _ _, nofun⟩
  | cons number rest ih =>
      have continues := (events_observe number probe board).continues
      obtain ⟨subscribers, learns, now⟩ := observe_learns h quiet number probe
      have quiet' : (board.observe number probe).2.Quiet := by
        rw [Quiet, subscribers]
        exact quiet
      obtain ⟨subscribers', learns', later⟩ := ih (h.continues continues) quiet'
      refine ⟨subscribers'.trans subscribers, learns.trans learns', List.forall_mem_cons.mpr ⟨?_, ?_⟩⟩
      · intro s switch known own
        exact learns'.isSome (now s switch known own)
      · intro other member s switch known own
        obtain ⟨s', known', becomes⟩ := continues.becomes known
        exact later other member s' switch known' ((becomes.switchOf? probe).trans own)

/-- Showing a probe where no listener asks for anything changes nothing about what is admitted. -/
theorem observeAll_quiet (numbers : List Nat) (h : board.Bundled) (quiet : board.Quiet)
    (sound : board.settings.Sound) (probe : Probe) :
    (board.observeAll probe numbers).settings.Admits probe ↔ board.settings.Admits probe := by
  obtain ⟨-, learns, -⟩ := observeAll_learns numbers h quiet probe
  exact learns.admits sound (Probe.agentDisabled_not_mem_switches probe)

/-- Whatever was written and registered before, and whatever was collected and whichever aspects
failed: a probe is collected exactly if the settings admit it, as they are when it is judged. Where
no listener asks for anything they may be taken as they are when it comes. -/
theorem collect_iff_admits {early calls : List Call} (before : ∀ call ∈ early, call.OnSettings)
    (plain : ∀ call ∈ calls, call.Plain) (config : Config) (probe : Probe) :
    let board := after step (Service.buildBoard config [] (after step {} early)) calls
    ((board.collect probe).1 = true ↔ (board.collect probe).2.settings.Admits probe) ∧
      (board.Quiet → ((board.collect probe).1 = true ↔ board.settings.Admits probe)) := by
  intro board
  have bare := bare_after before
  obtain ⟨built, fresh⟩ := bundled_build bare config
  have bundled : board.Bundled := built.after plain
  have abreast : board.Abreast [] := after_keeps (P := fun board => board.Abreast [])
    (fun _ _ h event => h.event event) fresh plain
  have empty : Settings.Sound {} := nofun
  have early : (after step {} early).settings.Sound := Sound.after empty early
  have sound : board.settings.Sound := Sound.after (sound_build bare early config) calls
  have shown := events_observeAll probe board.registered board
  obtain ⟨same, verdict⟩ := judgeAll_active (bundled.continues shown.continues)
    (abreast.events shown) probe
  have judged : (board.collect probe).2 = board.observeAll probe board.registered := same
  rw [judged]
  refine ⟨verdict, fun quiet => ?_⟩
  exact verdict.trans (observeAll_quiet board.registered bundled quiet sound probe)

/-- A package is off, one method of it on again; an aspect failed, and a probe came. -/
def switchedShop : List Call :=
  [.write (SettingName.instrumentationRoot ++ "shop") (.bool false),
    .collect { className := "shop.Api", methodName := "get" },
    .write (SettingName.instrumentation "shop.Api" "get") (.bool true),
    .disableAspect Service.aspectStrategy "sql" "jdbc" "slow"]

theorem collect_in_switched_shop :
    let early := [Call.write (SettingName.pluginEnabled "jdbc") (.bool false)]
    let board := after step (Service.buildBoard {} [] (after step {} early)) switchedShop
    let get : Probe := { className := "shop.Api", methodName := "get" }
    let put : Probe := { className := "shop.Api", methodName := "put" }
    board.Quiet ∧ (board.collect get).1 = true ∧ board.settings.Admits get ∧
      (board.collect put).1 = false ∧ ¬board.settings.Admits put := by
  intro early board get put
  have before : ∀ call ∈ early, call.OnSettings := List.forall_mem_singleton.mpr trivial
  have plain : ∀ call ∈ switchedShop, call.Plain := by simp [switchedShop, Call.Plain]
  have ran : board.subscribers.all (·.2.isChain) = true ∧ (board.collect get).1 = true ∧
      (board.collect put).1 = false := by decide +kernel
  obtain ⟨chainOnly, collected, rejected⟩ := ran
  have quiet : board.Quiet := by
    intro id listener member
    cases List.all_eq_true.mp chainOnly _ member
  have getVerdict := (collect_iff_admits before plain {} get).2 quiet
  have putVerdict := (collect_iff_admits before plain {} put).2 quiet
  refine ⟨quiet, collected, getVerdict.mp collected, rejected, fun admits => ?_⟩
  rw [putVerdict.mpr admits] at rejected
  cases rejected

end

end Switchboard
end SpanCapture
