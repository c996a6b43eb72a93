import SpanCapture.Collection.Switchboard
import SpanCapture.Text.Quoted

/-! The chain of strategies. Every strategy in the chain sees each probe first; then the
active ones judge it in the order of their priorities until one rejects it. A strategy
that crashes is passed over for that probe. -/
namespace SpanCapture
namespace Switchboard

/-- Puts a strategy on the board, not yet in the chain; gives its number. -/
def add (strategy : Strategy) (board : Switchboard) : Nat × Switchboard :=
  (board.strategies.length, { board with strategies := board.strategies ++ [strategy] })

/-- The strategy that is switched on by disabling the agent. -/
def addAgent (board : Switchboard) : Nat × Switchboard :=
  (board.register SettingName.agentDisabled (.bool false)).2.add .agent

def clampPercent (i : Int) : Nat := (max 0 (min 100 i)).toNat

/-- The strategy for downgraded traces. The percentage is a default for its setting; a
setting already there counts. -/
def addEndpoints (percent : Nat) (board : Switchboard) : Nat × Switchboard :=
  let (value, board) := board.register SettingName.endpointRatio (.ofUnsigned (min percent 100))
  let current := (value.asInt?.getD 0).toInt
  board.add (.endpoints (.ofPercent (clampPercent current)))

def addAspects (threshold : Nat) (board : Switchboard) : Nat × Switchboard :=
  board.add (.aspects { threshold := max threshold 1 })

def replace (number : Nat) (strategy : Strategy) (board : Switchboard) : Switchboard :=
  { board with strategies := board.strategies.set number strategy }

def note (event : BoardEvent) (board : Switchboard) : Switchboard :=
  { board with journal := board.journal ++ [event] }

/-- Shows a probe to a strategy. Switches are made known, on; they decide nothing. -/
def observe (number : Nat) (probe : Probe) (board : Switchboard) : Outcome Unit × Switchboard :=
  match board.strategies[number]? with
  | none => (.done (), board)
  | some (.custom s) =>
    let requests := s.onSight board.journal probe
    (s.observe probe, (board.note (.observed s.name.dotted)).serveAll requests)
  | some strategy =>
    match strategy.switchOf? probe with
    | none => (.done (), board)
    | some switch =>
      let board := board.replace number (strategy.remember board.settings switch)
      (.done (), (board.register switch (.bool true)).2)

/-- Asks a strategy whether it lets a probe through. -/
def judge (number : Nat) (probe : Probe) (board : Switchboard) : Outcome Bool × Switchboard :=
  match board.strategies[number]? with
  | none => (.done true, board)
  | some (.custom s) =>
    let requests := s.onJudging board.journal probe
    (s.collect probe, (board.note (.judged s.name.dotted)).serveAll requests)
  | some strategy => (strategy.collect board.settings probe, board)

def observeAll (probe : Probe) : List Nat → Switchboard → Switchboard
  | [], board => board
  | number :: rest, board => observeAll probe rest (board.observe number probe).2

/-- Asks strategies one after another until one rejects the probe. -/
def judgeAll (probe : Probe) : List Nat → Switchboard → Bool × Switchboard
  | [], board => (true, board)
  | number :: rest, board =>
    match board.judge number probe with
    | (.done false, board) => (false, board)
    | (_, board) => judgeAll probe rest board

/-- Whether a probe is let through: shown to the whole chain first, then judged by those active. -/
def collect (probe : Probe) (board : Switchboard) : Bool × Switchboard :=
  let board := board.observeAll probe board.registered
  board.judgeAll probe board.active

def activeNames (board : Switchboard) : List String :=
  (board.named board.active).map (·.name.dotted)

def shownChain (board : Switchboard) : String :=
  "StrategyChain \x7b registered: " ++ toString board.registered.length ++ ", active: " ++
    Text.quotedList board.activeNames ++ " \x7d"

/-- Whether the trace of a root just opened is downgraded, at the percentage the settings ask for
now. -/
def decideRoot (number : Nat) (board : Switchboard) : Bool × Switchboard :=
  match board.strategies[number]? with
  | some (.endpoints tracker) =>
    let percent := clampPercent (Strategy.ratioSetting board.settings)
    let (downgrade, tracker) := (tracker.setPercent percent).decide
    (downgrade, board.replace number (.endpoints tracker))
  | _ => (false, board)

def tracker? (number : Nat) (board : Switchboard) : Option RatioTracker :=
  match board.strategies[number]? with
  | some (.endpoints tracker) => some tracker
  | _ => none

def ignoredBy (number : Nat) (board : Switchboard) : List String :=
  match board.strategies[number]? with
  | some (.ignored applications) => applications
  | _ => []

def distinct (names : List String) : List String :=
  (Keyed.ofList (names.map fun name => (name, ()))).keys

/-- Tells a strategy which applications to ignore. The list is also written as a setting,
which is how the chain comes to look again. -/
def ignoreApplications (number : Nat) (applications : List String) (board : Switchboard) :
    Switchboard :=
  match board.strategies[number]? with
  | some (.ignored _) =>
    let names := distinct applications
    (board.replace number (.ignored names)).write SettingName.ignoredApplications
      (.list (names.map .text))
  | _ => board

/-- The call sites a strategy saw first and nobody wrote since, sorted. -/
def discoveredBy (number : Nat) (board : Switchboard) : List String :=
  match board.strategies[number]? with
  | some (.callSites discovered) =>
    distinct (discovered.filter fun name => !board.settings.isExplicit name)
  | _ => []

def agentDisabled (board : Switchboard) : Bool :=
  (board.settings.getBool? SettingName.agentDisabled).getD false

end Switchboard
end SpanCapture
