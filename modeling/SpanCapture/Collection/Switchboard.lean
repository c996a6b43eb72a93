import SpanCapture.Collection.Strategy
import SpanCapture.Failure

/-! The switchboard: settings, those who are told of changes, and the strategies with the
chain they form. A change is told to everybody subscribed at that moment, in the order
of subscription. Whoever is told may write settings in turn; such a write is carried out,
and told, before the others are told of the first. A subscriber that fails is passed
over.

What is still to be told and done stands in a list of errands. Listeners may answer each
other without end; then what was asked for never comes to an end either. -/
namespace SpanCapture

/-- Someone told of changes. What a listener asks for, and how it ends, may depend on all that
happened before; one that fails asks for nothing more. -/
structure Listener where
  label : String
  react : List BoardEvent → String → Value → List Request
  /-- How it ends: well, with a failure, or by crashing. -/
  ending : List BoardEvent → String → Value → Outcome (Except Failure Unit) :=
    fun _ _ _ => .done (.ok ())

/-- Tells a listener of a change: how that ended, and what it asked for until then. -/
def Listener.hear (journal : List BoardEvent) (name : String) (value : Value)
    (listener : Listener) : Outcome (Except Failure Unit) × List Request :=
  (listener.ending journal name value, listener.react journal name value)

/-- Who is told of changes: the chain itself, or a listener. -/
inductive Subscriber where
  | chain
  | listener (listener : Listener)

/-- What is still to be done: a change to tell, or a request to serve. -/
inductive Errand where
  | tell (id : Nat) (subscriber : Subscriber) (name : String) (value : Value)
  | serve (request : Request)

/-- Settings, those who are told of them, and the strategies. -/
structure Switchboard where
  settings : Settings := {}
  subscribers : List (Nat × Subscriber) := []
  nextId : Nat := 0
  strategies : List Strategy := []
  /-- The strategies in the chain, by number, in the order they came. -/
  enlisted : List Nat := []
  active : List Nat := []
  journal : List BoardEvent := []

def Subscriber.isChain : Subscriber → Bool
  | chain => true
  | listener _ => false

namespace Switchboard

def named (board : Switchboard) (numbers : List Nat) : List Strategy :=
  numbers.filterMap (board.strategies[·]?)

def priorityOf (board : Switchboard) (number : Nat) : Int :=
  (board.strategies[number]?.map (·.priority)).getD 0

def isActiveNow (board : Switchboard) (number : Nat) : Bool :=
  (board.strategies[number]?.map (·.isActive board.settings)).getD false

/-- Where a strategy goes in the order: behind all that do not run later. -/
def place (board : Switchboard) (number : Nat) : List Nat → List Nat
  | [] => [number]
  | other :: rest =>
    if board.priorityOf other ≤ board.priorityOf number then other :: board.place number rest
    else number :: other :: rest

/-- The strategies in the chain, by number, in the order they run. -/
def registered (board : Switchboard) : List Nat :=
  board.enlisted.foldl (fun order number => board.place number order) []

/-- Lists anew who is active, in the order they run. -/
def refresh (board : Switchboard) : Switchboard :=
  { board with active := board.registered.filter board.isActiveNow }

/-- Brings a strategy into the chain. -/
def enlist (number : Nat) (board : Switchboard) : Switchboard :=
  match board.strategies[number]? with
  | none => board
  | some _ => { board with enlisted := board.enlisted ++ [number] }.refresh

/-- The chain is told of a change: it looks again if a strategy may depend on it. -/
def chainTold (name : String) (board : Switchboard) : Switchboard :=
  if (board.named board.registered).any fun s => startsWith s.activation name then board.refresh
  else board

/-- The errands of telling everybody of a change. -/
def announce (name : String) (value : Value) (board : Switchboard) : List Errand :=
  board.subscribers.map fun (id, subscriber) => .tell id subscriber name value

def drop (id : Nat) (board : Switchboard) : Switchboard :=
  { board with subscribers := board.subscribers.filter fun entry => entry.1 != id }

/-- Lets a listener go. The chain's subscription is not for others to end. -/
def dismiss (id : Nat) (board : Switchboard) : Switchboard :=
  { board with subscribers := board.subscribers.filter fun entry =>
      entry.1 != id || entry.2.isChain }

/-- Does an errand; gives what it gives rise to. -/
def attend (board : Switchboard) : Errand → Switchboard × List Errand
  | .tell _ .chain name _ => (board.chainTold name, [])
  | .tell id (.listener listener) name value =>
    -- However it ended, the others are told as well.
    let (_, requests) := listener.hear board.journal name value
    let event := .told id listener.label name value
    ({ board with journal := board.journal ++ [event] }, requests.map .serve)
  | .serve (.write name value) =>
    let (changed, settings) := board.settings.write name value
    ({ board with settings }, if changed then board.announce name value else [])
  | .serve (.register name value) =>
    if (board.settings.get? name).isSome then (board, [])
    else
      ({ board with settings := board.settings.introduce name value },
        board.announce name value)
  | .serve (.enlist number) => (board.enlist number, [])
  | .serve (.unsubscribe id) => (board.dismiss id, [])

/-- Does errands one after another, those an errand gives rise to right after it. Gives
the board when all are done; there is none if they never are. -/
def settle (board : Switchboard) (errands : List Errand) : Option Switchboard :=
  match errands with
  | [] => some board
  | errand :: rest => (board.attend errand).1 |>.settle ((board.attend errand).2 ++ rest)
partial_fixpoint

/-- The same, counting the first errands down: what is soon settled can be computed by
unfolding alone. -/
def settleSoon : Nat → Switchboard → List Errand → Option Switchboard
  | _, board, [] => some board
  | 0, board, errands => board.settle errands
  | count + 1, board, errand :: rest =>
    settleSoon count (board.attend errand).1 ((board.attend errand).2 ++ rest)

/-- Serves requests one after another. Where they never come to an end whoever asked waits
forever; the board stands for that as it was. -/
def serveAll (requests : List Request) (board : Switchboard) : Switchboard :=
  (settleSoon 1000000 board (requests.map .serve)).getD board

def serve (request : Request) (board : Switchboard) : Switchboard := board.serveAll [request]

def write (name : String) (value : Value) (board : Switchboard) : Switchboard :=
  board.serve (.write name value)

/-- Makes a setting known with a default, unless it is known; gives its value. -/
def register (name : String) (value : Value) (board : Switchboard) : Value × Switchboard :=
  match board.settings.get? name with
  | some existing => (existing, board)
  | none => (value, board.serve (.register name value))

def subscribe (subscriber : Subscriber) (board : Switchboard) : Nat × Switchboard :=
  (board.nextId, { board with
    subscribers := board.subscribers ++ [(board.nextId, subscriber)]
    nextId := board.nextId + 1 })

def unsubscribe (id : Nat) (board : Switchboard) : Bool × Switchboard :=
  (board.subscribers.any fun entry => entry.1 == id, board.drop id)

@[simp] theorem settle_nil (board : Switchboard) : board.settle [] = some board := by
  rw [settle]

theorem settle_cons (board : Switchboard) (errand : Errand) (rest : List Errand) :
    board.settle (errand :: rest) =
      (board.attend errand).1.settle ((board.attend errand).2 ++ rest) := by
  rw [settle]

theorem settleSoon_eq (count : Nat) (board : Switchboard) (errands : List Errand) :
    settleSoon count board errands = board.settle errands := by
  induction count generalizing board errands with
  | zero =>
    cases errands with
    | nil => rw [settleSoon, settle]
    | cons errand rest => rfl
  | succ count ih =>
    cases errands with
    | nil => rw [settleSoon, settle]
    | cons errand rest => rw [settleSoon, ih, settle_cons]

theorem serveAll_eq (requests : List Request) (board : Switchboard) :
    board.serveAll requests = (board.settle (requests.map .serve)).getD board := by
  rw [serveAll, settleSoon_eq]

@[simp] theorem settings_refresh (board : Switchboard) : board.refresh.settings = board.settings :=
  rfl

@[simp] theorem settings_chainTold (name : String) (board : Switchboard) :
    (board.chainTold name).settings = board.settings := by
  unfold chainTold
  split <;> rfl

end Switchboard
end SpanCapture
