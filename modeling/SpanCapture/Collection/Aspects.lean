import SpanCapture.Collection.Chain

/-! Failures of aspects. An aspect that keeps failing is switched off; why it was is kept
with its plugin. Switching an aspect on forgets its failures. -/
namespace SpanCapture
namespace AspectLedger

def count (aspect : String) (ledger : AspectLedger) : Nat := (ledger.counts.find? aspect).getD 0

def reasonsOf (plugin : String) (ledger : AspectLedger) : List String :=
  (ledger.reasons.find? plugin).getD []

def countFailure (aspect : String) (ledger : AspectLedger) : AspectLedger :=
  { ledger with counts := ledger.counts.insert aspect (ledger.count aspect + 1) }

def forget (aspect : String) (ledger : AspectLedger) : AspectLedger :=
  { ledger with counts := ledger.counts.erase aspect }

def addReason (aspect plugin reason : String) (ledger : AspectLedger) : AspectLedger :=
  { ledger with reasons :=
      ledger.reasons.insert plugin (ledger.reasonsOf plugin ++ [aspect ++ ": " ++ reason]) }

@[simp] theorem count_countFailure_self (aspect : String) (ledger : AspectLedger) :
    (ledger.countFailure aspect).count aspect = ledger.count aspect + 1 := by
  simp [count, countFailure, Keyed.find?_insert_self]

@[simp] theorem count_forget_self (aspect : String) (ledger : AspectLedger) :
    (ledger.forget aspect).count aspect = 0 := by
  simp [count, forget, Keyed.find?_erase_self]

@[simp] theorem threshold_countFailure (aspect : String) (ledger : AspectLedger) :
    (ledger.countFailure aspect).threshold = ledger.threshold := rfl

end AspectLedger

namespace Switchboard

def ledger? (number : Nat) (board : Switchboard) : Option AspectLedger :=
  match board.strategies[number]? with
  | some (.aspects ledger) => some ledger
  | _ => none

/-- Changes the ledger of a strategy, if the strategy keeps one. -/
def withLedger (number : Nat) (change : AspectLedger → AspectLedger) (board : Switchboard) :
    Switchboard :=
  match board.ledger? number with
  | some ledger => board.replace number (.aspects (change ledger))
  | none => board

/-- Switches an aspect off, and keeps the reason. -/
def disableAspect (number : Nat) (aspect plugin reason : String) (board : Switchboard) :
    Switchboard :=
  (board.withLedger number (·.addReason aspect plugin reason)).write
    (SettingName.aspectEnabled aspect) (.bool false)

/-- Switches an aspect on, and forgets its failures. -/
def enableAspect (number : Nat) (aspect : String) (board : Switchboard) : Switchboard :=
  (board.withLedger number (·.forget aspect)).write (SettingName.aspectEnabled aspect)
    (.bool true)

/-- Counts a failure of an aspect; the flag tells whether it switched the aspect off. -/
def recordFailure (number : Nat) (aspect plugin reason : String) (board : Switchboard) :
    Bool × Switchboard :=
  let board := board.withLedger number (·.countFailure aspect)
  match board.ledger? number with
  | none => (false, board)
  | some ledger =>
    let enabled := (board.settings.getBool? (SettingName.aspectEnabled aspect)).getD true
    if enabled && ledger.threshold ≤ ledger.count aspect then
      (true, board.disableAspect number aspect plugin reason)
    else (false, board)

end Switchboard
end SpanCapture
