import SpanCapture.Proofs.Collection.Settings
import SpanCapture.Collection.Strategy

/-! What settings admit, apart from strategies, chains and who is active. Method switches are named
after the method, its class, and whatever the class lies in; the longest name that decides counts.
Each strategy, asked only while it is active, comes to its own part of that: one that is not active
would have accepted. -/
namespace SpanCapture

/-- The names of the switches that govern a method. -/
inductive Governs (probe : Probe) : String → Prop
  | method : Governs probe (SettingName.instrumentation probe.className probe.methodName)
  | itself : Governs probe (SettingName.instrumentationRoot ++ probe.className)
  | above {package below : String} (inside : probe.className = package ++ "." ++ below) :
      Governs probe (SettingName.instrumentationRoot ++ package)

/-- The names a verdict on a probe may go by. -/
inductive Concerns (probe : Probe) : String → Prop
  | agent : Concerns probe SettingName.agentDisabled
  | ratio : Concerns probe SettingName.endpointRatio
  | plugin {plugin : String} (own : probe.plugin = some plugin) :
      Concerns probe (SettingName.pluginEnabled plugin)
  | aspect {aspect : String} (own : probe.aspect = some aspect) :
      Concerns probe (SettingName.aspectEnabled aspect)
  | site {name : String} (governs : Governs probe name) : Concerns probe name

namespace Settings

/-- A switch decides when it is off, or written on. -/
def Decides (settings : Settings) (name : String) : Prop :=
  settings.getBool? name = some false ∨
    settings.getBool? name = some true ∧ settings.isExplicit name = true

/-- The switch that decides about a method: none with a longer name does. -/
structure Deciding (settings : Settings) (probe : Probe) (name : String) : Prop where
  governs : Governs probe name
  decides : settings.Decides name
  first : ∀ other, Governs probe other → name.length < other.length → ¬settings.Decides other

/-- What is to be recorded, by the settings alone. -/
structure Admits (settings : Settings) (probe : Probe) : Prop where
  agent : settings.getBool? SettingName.agentDisabled ≠ some true
  endpoints : ∀ ratio, settings.getInt? SettingName.endpointRatio = some ratio → 0 < ratio.toInt →
    probe.endpointOnly = true → probe.isEndpoint = true
  plugin : ∀ plugin, probe.plugin = some plugin →
    settings.getBool? (SettingName.pluginEnabled plugin) ≠ some false
  aspect : ∀ aspect, probe.aspect = some aspect →
    settings.getBool? (SettingName.aspectEnabled aspect) ≠ some false
  site : ∀ name, settings.Deciding probe name → settings.getBool? name ≠ some false

/-- Of what concerns a probe nothing differs, but that switches may have become known: on, and
unwritten. -/
structure Bears (probe : Probe) (s t : Settings) : Prop where
  explicit : ∀ name, Concerns probe name → t.isExplicit name = s.isExplicit name
  values : ∀ name, Concerns probe name → t.get? name = s.get? name ∨
    name ≠ SettingName.agentDisabled ∧ s.get? name = none ∧ t.get? name = some (.bool true)

section
variable {s t u : Settings} {probe : Probe} {name : String}

/-- All that admission looks at: the agent's switch, the ratio, what is off, what decides. -/
theorem Admits.congr (h : s.Admits probe)
    (agent : t.getBool? SettingName.agentDisabled = s.getBool? SettingName.agentDisabled)
    (ratio : t.getInt? SettingName.endpointRatio = s.getInt? SettingName.endpointRatio)
    (off : ∀ name, Concerns probe name → (t.getBool? name = some false ↔
      s.getBool? name = some false))
    (decides : ∀ name, Concerns probe name → (t.Decides name ↔ s.Decides name)) :
    t.Admits probe := by
  refine ⟨agent ▸ h.agent, ratio ▸ h.endpoints, ?_, ?_, ?_⟩
  · exact fun plugin own => (not_congr (off _ (.plugin own))).mpr (h.plugin plugin own)
  · exact fun aspect own => (not_congr (off _ (.aspect own))).mpr (h.aspect aspect own)
  · rintro name ⟨governs, here, first⟩
    refine (not_congr (off name (.site governs))).mpr
      (h.site name ⟨governs, (decides name (.site governs)).mp here, ?_⟩)
    exact fun other above longer =>
      (not_congr (decides other (.site above))).mp (first other above longer)

/-- Switches that become known as on decide nothing. -/
theorem Bears.admits (h : Bears probe s t) (sound : s.Sound) :
    t.Admits probe ↔ s.Admits probe := by
  have off (x : String) (concerns : Concerns probe x) :
      t.getBool? x = some false ↔ s.getBool? x = some false := by
    unfold getBool? Attributes.getBool?
    change (t.get? x).bind _ = _ ↔ (s.get? x).bind _ = _
    rcases h.values x concerns with same | ⟨-, unknown, now⟩
    · rw [same]
    · rw [unknown, now]
      simp
  have decides (x : String) (concerns : Concerns probe x) : t.Decides x ↔ s.Decides x := by
    unfold Decides
    rw [off x concerns, h.explicit x concerns]
    rcases h.values x concerns with same | ⟨-, unknown, -⟩
    · exact or_congr_right (and_congr_left fun _ =>
        iff_of_eq (congrArg (Option.bind · Value.asBool? = some true) same))
    · -- Nobody wrote what has no value.
      have unwritten : s.isExplicit x ≠ true := by
        intro explicit
        have stored := sound x explicit
        rw [unknown] at stored
        cases stored
      simp [unwritten]
  have agent : t.getBool? SettingName.agentDisabled = s.getBool? SettingName.agentDisabled := by
    rcases h.values _ .agent with same | ⟨other, -, -⟩
    · exact congrArg (Option.bind · Value.asBool?) same
    · exact absurd rfl other
  have ratio : t.getInt? SettingName.endpointRatio = s.getInt? SettingName.endpointRatio := by
    change (t.get? _).bind Value.asInt? = (s.get? _).bind Value.asInt?
    rcases h.values _ .ratio with same | ⟨-, unknown, now⟩
    · rw [same]
    · rw [unknown, now]
      rfl
  constructor
  · intro admits
    exact admits.congr agent.symm ratio.symm (fun x concerns => (off x concerns).symm)
      fun x concerns => (decides x concerns).symm
  · intro admits
    exact admits.congr agent ratio off decides

theorem Learns.bears {news : String → Prop} (h : Learns news s t)
    (apart : ¬news SettingName.agentDisabled) (probe : Probe) : Bears probe s t := by
  constructor
  · intro name _
    rw [isExplicit, isExplicit, h.explicit]
  · intro name _
    refine (h.values name).imp_right fun ⟨new, unknown, now⟩ => ⟨?_, unknown, now⟩
    rintro rfl
    exact apart new

theorem Learns.admits {news : String → Prop} (h : Learns news s t) (sound : s.Sound)
    (apart : ¬news SettingName.agentDisabled) : t.Admits probe ↔ s.Admits probe :=
  (h.bears apart probe).admits sound

theorem Bears.refl (probe : Probe) (s : Settings) : Bears probe s s :=
  ⟨fun _ _ => rfl, fun _ _ => .inl rfl⟩

theorem Bears.trans (first : Bears probe s t) (next : Bears probe t u) : Bears probe s u := by
  refine ⟨fun name concerns => ?_, fun name concerns => ?_⟩
  · exact (next.explicit name concerns).trans (first.explicit name concerns)
  · rcases next.values name concerns with same | ⟨apart, unknown, now⟩
    · rw [same]
      exact first.values name concerns
    · rcases first.values name concerns with same | ⟨-, -, before⟩
      · exact .inr ⟨apart, same.symm.trans unknown, now⟩
      · rw [unknown] at before
        cases before

/-- A value for a name that does not concern a probe. -/
theorem Bears.introduce (apart : ¬Concerns probe name) (value : Value) (s : Settings) :
    Bears probe s (s.introduce name value) := by
  refine ⟨fun _ _ => rfl, fun other concerns => .inl (get?_introduce_of_ne ?_ value s)⟩
  rintro rfl
  exact apart concerns

theorem Bears.write (apart : ¬Concerns probe name) (value : Value) (s : Settings) :
    Bears probe s (s.write name value).2 := by
  have differs (other : String) (concerns : Concerns probe other) : other ≠ name := by
    rintro rfl
    exact apart concerns
  constructor
  · exact fun other concerns => isExplicit_write_of_ne (differs other concerns) value s
  · exact fun other concerns => .inl (get?_write_of_ne (differs other concerns) value s)

end

end Settings

namespace Strategy

section
variable {settings : Settings} {probe : Probe} {name dotted : String}

theorem mem_upward : name ∈ upward dotted ↔
    name = dotted ∨ ∃ below, dotted = name ++ "." ++ below := by
  unfold upward
  refine List.mem_cons.trans (or_congr_right ?_)
  simp only [List.mem_map, List.mem_filter, List.mem_reverse, List.mem_range, beq_iff_eq]
  constructor
  · rintro ⟨i, ⟨-, dot⟩, rfl⟩
    obtain ⟨inside, here⟩ := List.getElem?_eq_some_iff.mp dot
    refine ⟨String.ofList (dotted.toList.drop (i + 1)), String.toList_injective ?_⟩
    have split : dotted.toList = dotted.toList.take i ++ '.' :: dotted.toList.drop (i + 1) := by
      rw [← here, List.getElem_cons_drop, List.take_append_drop]
    simpa using split
  · rintro ⟨below, rfl⟩
    refine ⟨name.toList.length, ⟨?_, ?_⟩, ?_⟩
    · simp
    · simp
    · simp

/-- The names above a name get shorter and shorter. -/
theorem pairwise_upward (dotted : String) :
    (upward dotted).Pairwise fun first later => later.length < first.length := by
  refine List.pairwise_cons.mpr ⟨?_, ?_⟩
  · intro name member
    obtain ⟨i, found, rfl⟩ := List.mem_map.mp member
    have inside := List.mem_range.mp (List.mem_reverse.mp (List.mem_filter.mp found).1)
    rw [String.length_ofList, List.length_take, ← String.length_toList]
    omega
  · refine List.pairwise_map.mpr ?_
    have down : ((List.range dotted.toList.length).reverse.filter
        fun i => dotted.toList[i]? == some '.').Pairwise fun i j => j < i :=
      (List.pairwise_reverse.mpr List.pairwise_lt_range).filter _
    refine down.imp_of_mem fun {i j} member _ lower => ?_
    have inside := List.mem_range.mp (List.mem_reverse.mp (List.mem_filter.mp member).1)
    rw [String.length_ofList, String.length_ofList, List.length_take, List.length_take]
    omega

theorem mem_switchesFor : name ∈ switchesFor probe ↔ Governs probe name := by
  rw [switchesFor, List.mem_cons, List.mem_map]
  constructor
  · rintro (rfl | ⟨above, member, rfl⟩)
    · exact .method
    · rcases mem_upward.mp member with rfl | ⟨below, inside⟩
      · exact .itself
      · exact .above inside
  · intro governs
    cases governs with
    | method => exact .inl rfl
    | itself => exact .inr ⟨_, mem_upward.mpr (.inl rfl), rfl⟩
    | above inside => exact .inr ⟨_, mem_upward.mpr (.inr ⟨_, inside⟩), rfl⟩

theorem pairwise_switchesFor (probe : Probe) :
    (switchesFor probe).Pairwise fun first later => later.length < first.length := by
  refine List.pairwise_cons.mpr ⟨?_, List.pairwise_map.mpr ?_⟩
  · intro name member
    obtain ⟨above, found, rfl⟩ := List.mem_map.mp member
    have short : above.length ≤ probe.className.length := by
      rcases mem_upward.mp found with rfl | ⟨below, inside⟩
      · exact Nat.le_refl _
      · rw [inside, String.length_append, String.length_append]
        omega
    have dot : ".".length = 1 := rfl
    rw [SettingName.instrumentation, String.length_append, String.length_append,
      String.length_append, String.length_append]
    omega
  · refine (pairwise_upward probe.className).imp fun {first later} shorter => ?_
    rw [String.length_append, String.length_append]
    omega

theorem decisiveSwitch?_ne_none : decisiveSwitch? settings name ≠ none ↔ settings.Decides name := by
  unfold decisiveSwitch? Settings.Decides
  split
  · rename_i on
    rw [on]
    split
    · simp_all
    · simp_all
  · rename_i off
    simp [off]
  · rename_i unknown
    simp [unknown]

theorem decisiveSwitch?_eq_false :
    decisiveSwitch? settings name = some false ↔ settings.getBool? name = some false := by
  unfold decisiveSwitch?
  split
  · rename_i on
    rw [on]
    split
    · simp
    · simp
  · rename_i off
    simp [off]
  · rename_i unknown
    simp [unknown]

/-- Of names that get shorter, the first that decides is the one with none longer. -/
theorem findSome?_switchesFor :
    (switchesFor probe).findSome? (decisiveSwitch? settings) = some false ↔
      ∃ name, settings.Deciding probe name ∧ settings.getBool? name = some false := by
  rw [List.findSome?_eq_some_iff]
  constructor
  · rintro ⟨before, name, later, order, off, silent⟩
    have shorter := pairwise_switchesFor probe
    rw [order] at shorter
    obtain ⟨-, behind, -⟩ := List.pairwise_append.mp shorter
    have off := decisiveSwitch?_eq_false.mp off
    refine ⟨name, ⟨?_, .inl off, ?_⟩, off⟩
    · rw [← mem_switchesFor, order]
      exact List.mem_append_right _ List.mem_cons_self
    · intro other governs longer decides
      rw [← mem_switchesFor, order] at governs
      rcases List.mem_append.mp governs with ahead | rest
      · exact decisiveSwitch?_ne_none.mpr decides (silent other ahead)
      · rcases List.mem_cons.mp rest with rfl | shortest
        · exact Nat.lt_irrefl _ longer
        · exact Nat.lt_asymm longer ((List.pairwise_cons.mp behind).1 other shortest)
  · rintro ⟨name, ⟨governs, -, first⟩, off⟩
    obtain ⟨before, later, order⟩ := List.append_of_mem (mem_switchesFor.mpr governs)
    have shorter := pairwise_switchesFor probe
    rw [order] at shorter
    obtain ⟨-, -, across⟩ := List.pairwise_append.mp shorter
    refine ⟨before, name, later, order, decisiveSwitch?_eq_false.mpr off, ?_⟩
    intro other ahead
    have governs : Governs probe other := by
      rw [← mem_switchesFor, order]
      exact List.mem_append_left _ ahead
    cases found : decisiveSwitch? settings other with
    | none => rfl
    | some verdict =>
        have decides := decisiveSwitch?_ne_none.mp (found ▸ Option.some_ne_none verdict)
        exact absurd decides (first other governs (across other ahead name List.mem_cons_self))

def Passes (settings : Settings) (probe : Probe) (s : Strategy) : Prop :=
  s.isActive settings = true → s.collect settings probe ≠ .done false

theorem passes_agent : agent.Passes settings probe ↔
    settings.getBool? SettingName.agentDisabled ≠ some true := by
  unfold Passes isActive collect
  cases settings.getBool? SettingName.agentDisabled with
  | none => simp
  | some disabled => simp

theorem passes_ignored_nobody : (ignored []).Passes settings probe := nofun

theorem passes_endpoints {tracker : RatioTracker} : (endpoints tracker).Passes settings probe ↔
    ∀ ratio, settings.getInt? SettingName.endpointRatio = some ratio → 0 < ratio.toInt →
      probe.endpointOnly = true → probe.isEndpoint = true := by
  unfold Passes isActive collect ratioSetting
  cases settings.getInt? SettingName.endpointRatio with
  | none => simp
  | some ratio => cases probe.endpointOnly <;> simp

/-- A switch under a root, asked only while some switch under the root is off. -/
theorem switch_passes {root : String} {target : Option String} {switch : String → String}
    (inside : ∀ t, startsWith root (switch t) = true) :
    (settings.anyDisabled root = true → Outcome.done (target.elim true fun t =>
        (settings.getBool? (switch t)).getD true) ≠ Outcome.done false) ↔
      ∀ t, target = some t → settings.getBool? (switch t) ≠ some false := by
  cases target with
  | none => simp
  | some t =>
      constructor
      · rintro passes _ ⟨⟩ off
        cases active : settings.anyDisabled root with
        | true => exact passes active (by simp [off])
        | false => exact Settings.getBool?_ne_false active (inside t) off
      · intro on _
        cases stored : settings.getBool? (switch t) with
        | none => simp [stored]
        | some enabled =>
            cases enabled with
            | true => simp [stored]
            | false => exact absurd stored (on t rfl)

theorem startsWith_pluginEnabled (plugin : String) :
    startsWith SettingName.pluginsRoot (SettingName.pluginEnabled plugin) = true := by
  rw [SettingName.pluginEnabled, String.append_assoc]
  exact Settings.startsWith_append _ _

theorem startsWith_aspectEnabled (aspect : String) :
    startsWith SettingName.aspectsRoot (SettingName.aspectEnabled aspect) = true := by
  rw [SettingName.aspectEnabled, String.append_assoc]
  exact Settings.startsWith_append _ _

theorem startsWith_of_governs (governs : Governs probe name) :
    startsWith SettingName.instrumentationRoot name = true := by
  cases governs with
  | method =>
      rw [SettingName.instrumentation, String.append_assoc, String.append_assoc]
      exact Settings.startsWith_append _ _
  | itself => exact Settings.startsWith_append _ _
  | above => exact Settings.startsWith_append _ _

theorem passes_plugins : plugins.Passes settings probe ↔ ∀ plugin, probe.plugin = some plugin →
    settings.getBool? (SettingName.pluginEnabled plugin) ≠ some false :=
  switch_passes startsWith_pluginEnabled

theorem passes_aspects {ledger : AspectLedger} : (aspects ledger).Passes settings probe ↔
    ∀ aspect, probe.aspect = some aspect →
      settings.getBool? (SettingName.aspectEnabled aspect) ≠ some false :=
  switch_passes startsWith_aspectEnabled

/-- The strategy for call sites rejects a probe if the switch that decides about it is off. -/
theorem callSites_rejects {discovered : List String} :
    (callSites discovered).collect settings probe = .done false ↔
      ∃ name, settings.Deciding probe name ∧ settings.getBool? name = some false := by
  rw [← findSome?_switchesFor]
  unfold collect
  cases (switchesFor probe).findSome? (decisiveSwitch? settings) with
  | none => simp
  | some verdict => simp

theorem passes_callSites {discovered : List String} :
    (callSites discovered).Passes settings probe ↔
      ∀ name, settings.Deciding probe name → settings.getBool? name ≠ some false := by
  unfold Passes
  rw [Ne, callSites_rejects]
  constructor
  · intro passes name deciding off
    cases active : settings.anyDisabled SettingName.instrumentationRoot with
    | true => exact passes active ⟨name, deciding, off⟩
    | false => exact Settings.getBool?_ne_false active (startsWith_of_governs deciding.governs) off
  · rintro none _ ⟨name, deciding, off⟩
    exact none name deciding off

/-- The switches a strategy makes known lie under the root it watches. -/
theorem startsWith_switchOf? {s : Strategy} {switch : String}
    (known : s.switchOf? probe = some switch) : startsWith s.activation switch = true := by
  cases s with
  | plugins =>
      obtain ⟨plugin, -, rfl⟩ := Option.map_eq_some_iff.mp known
      exact startsWith_pluginEnabled plugin
  | aspects =>
      obtain ⟨aspect, -, rfl⟩ := Option.map_eq_some_iff.mp known
      exact startsWith_aspectEnabled aspect
  | callSites =>
      cases known
      exact startsWith_of_governs .method
  | agent => cases known
  | ignored => cases known
  | endpoints => cases known
  | custom => cases known

theorem switch_ne_agentDisabled {s : Strategy} {switch : String}
    (known : s.switchOf? probe = some switch) : switch ≠ SettingName.agentDisabled := by
  rintro rfl
  have inside := startsWith_switchOf? known
  cases s with
  | plugins =>
      change startsWith SettingName.pluginsRoot SettingName.agentDisabled = true at inside
      exact absurd inside (by decide +kernel)
  | aspects =>
      change startsWith SettingName.aspectsRoot SettingName.agentDisabled = true at inside
      exact absurd inside (by decide +kernel)
  | callSites =>
      change startsWith SettingName.instrumentationRoot SettingName.agentDisabled = true at inside
      exact absurd inside (by decide +kernel)
  | agent => cases known
  | ignored => cases known
  | endpoints => cases known
  | custom => cases known

end

end Strategy

namespace Probe

/-- The switches of a probe: of its method, its plugin and its aspect. -/
def switches (probe : Probe) : List String :=
  SettingName.instrumentation probe.className probe.methodName ::
    ((probe.plugin.map SettingName.pluginEnabled).toList ++
      (probe.aspect.map SettingName.aspectEnabled).toList)

theorem mem_switches {probe : Probe} {name : String} : name ∈ probe.switches ↔
    name = SettingName.instrumentation probe.className probe.methodName ∨
      (∃ plugin, probe.plugin = some plugin ∧ SettingName.pluginEnabled plugin = name) ∨
      ∃ aspect, probe.aspect = some aspect ∧ SettingName.aspectEnabled aspect = name := by
  simp [switches]

theorem mem_switches_of_switchOf? {probe : Probe} {s : Strategy} {switch : String}
    (own : s.switchOf? probe = some switch) : switch ∈ probe.switches := by
  rw [mem_switches]
  cases s with
  | plugins => exact .inr (.inl (Option.map_eq_some_iff.mp own))
  | aspects => exact .inr (.inr (Option.map_eq_some_iff.mp own))
  | callSites =>
      cases own
      exact .inl rfl
  | agent => cases own
  | ignored => cases own
  | endpoints => cases own
  | custom => cases own

theorem agentDisabled_not_mem_switches (probe : Probe) :
    SettingName.agentDisabled ∉ probe.switches := by
  rw [mem_switches]
  rintro (same | ⟨plugin, -, same⟩ | ⟨aspect, -, same⟩)
  · exact Strategy.switch_ne_agentDisabled (s := .callSites []) (congrArg some same.symm) rfl
  · exact absurd (same ▸ Strategy.startsWith_pluginEnabled plugin) (by decide +kernel)
  · exact absurd (same ▸ Strategy.startsWith_aspectEnabled aspect) (by decide +kernel)

end Probe
end SpanCapture
