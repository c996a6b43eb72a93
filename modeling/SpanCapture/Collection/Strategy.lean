import SpanCapture.Collection.Probe
import SpanCapture.Collection.Ratio
import SpanCapture.Collection.Request
import SpanCapture.Collection.Settings
import SpanCapture.Number.Power
import SpanCapture.Outcome

/-! Collection strategies: predicates on probes. Each has a name, a priority (lower runs
first), the root of the settings it depends on, and it is asked only while it is active.
Six kinds are at hand; others can be supplied. -/
namespace SpanCapture

/-- A strategy supplied from outside. -/
structure CustomStrategy where
  name : StrategyName
  priority : Int
  activation : String
  isActive : Settings → Bool
  /-- Sees a probe, whether it is active or not. -/
  observe : Probe → Outcome Unit
  collect : Probe → Outcome Bool
  /-- What it asks for when it sees a probe; it may go by all that happened before. -/
  onSight : List BoardEvent → Probe → List Request := fun _ _ => []
  /-- What it asks for when it judges a probe. -/
  onJudging : List BoardEvent → Probe → List Request := fun _ _ => []

/-- The failures of aspects, and why some were switched off. -/
structure AspectLedger where
  /-- How many failures switch an aspect off, at least one. -/
  threshold : Nat
  threshold_pos : 0 < threshold := by omega
  counts : Keyed Nat := []
  /-- Why aspects were switched off, by plugin, oldest first. -/
  reasons : Keyed (List String) := []

/-- A strategy with what it remembers. -/
inductive Strategy where
  | agent
  /-- Rejects the applications it was told to ignore; the names are sorted. -/
  | ignored (applications : List String)
  /-- Lets only endpoints through in downgraded traces. -/
  | endpoints (tracker : RatioTracker)
  | plugins
  | aspects (ledger : AspectLedger)
  /-- Switches for methods and all that lies above them; it keeps the sites it saw first. -/
  | callSites (discovered : List String)
  | custom (strategy : CustomStrategy)

namespace Strategy

def bundledName (kind : String) : StrategyName := { group := "collection", kind }

def name : Strategy → StrategyName
  | agent => bundledName "agent"
  | ignored _ => bundledName "ignored-context"
  | endpoints _ => bundledName "endpoint-only"
  | plugins => bundledName "plugin"
  | aspects _ => bundledName "aspect"
  | callSites _ => bundledName "instrumentation"
  | custom s => s.name

def priority : Strategy → Int
  | agent => -(twoTo 31 : Int)
  | ignored _ => -100
  | endpoints _ => -50
  | plugins => 0
  | aspects _ => 10
  | callSites _ => 20
  | custom s => s.priority

/-- What the names of the settings start with that can change its activity. -/
def activation : Strategy → String
  | agent => SettingName.agentDisabled
  | ignored _ => SettingName.ignoredApplications
  | endpoints _ => SettingName.endpointRatio
  | plugins => SettingName.pluginsRoot
  | aspects _ => SettingName.aspectsRoot
  | callSites _ => SettingName.instrumentationRoot
  | custom s => s.activation

/-- The percentage the settings ask for, zero if none. -/
def ratioSetting (settings : Settings) : Int :=
  ((settings.getInt? SettingName.endpointRatio).getD 0).toInt

/-- Whether a strategy is to be asked at all. -/
def isActive (settings : Settings) : Strategy → Bool
  | agent => (settings.getBool? SettingName.agentDisabled).getD false
  | ignored applications => !applications.isEmpty
  | endpoints _ => 0 < ratioSetting settings
  | plugins => settings.anyDisabled SettingName.pluginsRoot
  | aspects _ => settings.anyDisabled SettingName.aspectsRoot
  | callSites _ => settings.anyDisabled SettingName.instrumentationRoot
  | custom s => s.isActive settings

/-- A switch that counts: off, or on because somebody wrote it. A switch that is on by
default leaves the decision to others. -/
def decisiveSwitch? (settings : Settings) (name : String) : Option Bool :=
  match settings.getBool? name with
  | some true => if settings.isExplicit name then some true else none
  | some false => some false
  | none => none

/-- A dotted name and the names above it, each the one before without its last part. -/
def upward (dotted : String) : List String :=
  let cs := dotted.toList
  dotted :: ((List.range cs.length).reverse.filter fun i => cs[i]? == some '.').map fun i =>
    String.ofList (cs.take i)

/-- The switches that apply to a method, the most specific first. -/
def switchesFor (probe : Probe) : List String :=
  SettingName.instrumentation probe.className probe.methodName ::
    (upward probe.className).map (SettingName.instrumentationRoot ++ ·)

/-- Whether a strategy lets a probe through. -/
def collect (settings : Settings) (probe : Probe) : Strategy → Outcome Bool
  | agent => .done false
  | ignored applications =>
    .done (probe.application.elim true fun application => !applications.contains application)
  | endpoints _ => .done (!probe.endpointOnly || probe.isEndpoint)
  | plugins => .done (probe.plugin.elim true fun plugin =>
      (settings.getBool? (SettingName.pluginEnabled plugin)).getD true)
  | aspects _ => .done (probe.aspect.elim true fun aspect =>
      (settings.getBool? (SettingName.aspectEnabled aspect)).getD true)
  | callSites _ => .done (((switchesFor probe).findSome? (decisiveSwitch? settings)).getD true)
  | custom s => s.collect probe

/-- The switch a probe makes known, if the strategy registers one for it. -/
def switchOf? (probe : Probe) : Strategy → Option String
  | plugins => probe.plugin.map SettingName.pluginEnabled
  | aspects _ => probe.aspect.map SettingName.aspectEnabled
  | callSites _ => some (SettingName.instrumentation probe.className probe.methodName)
  | _ => none

/-- The strategy after it has seen the switch of a probe: call sites not known before are
remembered. -/
def remember (settings : Settings) (switch : String) : Strategy → Strategy
  | callSites discovered =>
    if (settings.get? switch).isSome || discovered.contains switch then callSites discovered
    else callSites (switch :: discovered)
  | other => other

@[simp] theorem name_remember (settings : Settings) (switch : String) (s : Strategy) :
    (s.remember settings switch).name = s.name := by
  cases s <;> simp only [remember]
  split <;> rfl

@[simp] theorem priority_remember (settings : Settings) (switch : String) (s : Strategy) :
    (s.remember settings switch).priority = s.priority := by
  cases s <;> simp only [remember]
  split <;> rfl

@[simp] theorem isActive_remember (settings other : Settings) (switch : String) (s : Strategy) :
    (s.remember settings switch).isActive other = s.isActive other := by
  cases s <;> simp only [remember]
  split <;> rfl

end Strategy
end SpanCapture
