/-! The share of traces recorded by their endpoints alone. A counter runs over the roots of
all traces; of every hundred the first ones, as many as the percentage says, are
downgraded. While the percentage is zero the counter stands still. -/
namespace SpanCapture

/-- A percentage, the roots counted and the roots downgraded so far. -/
structure RatioTracker where
  ratio : Nat
  ratio_le : ratio ≤ 100 := by omega
  decisions : Nat := 0
  downgraded : Nat := 0
  deriving Repr, DecidableEq

namespace RatioTracker

/-- A tracker at a percentage; one above a hundred counts as a hundred. -/
def ofPercent (percent : Nat) : RatioTracker where
  ratio := min percent 100

/-- Changes the percentage; the counter runs on. -/
def setPercent (percent : Nat) (t : RatioTracker) : RatioTracker :=
  { t with ratio := min percent 100, ratio_le := by omega }

/-- Decides for the next root: whether it is downgraded, and the tracker after it. -/
def decide (t : RatioTracker) : Bool × RatioTracker :=
  if t.ratio = 0 then (false, t)
  else
    let downgrade := t.decisions % 100 < t.ratio
    (downgrade, { t with
      decisions := t.decisions + 1
      downgraded := if downgrade then t.downgraded + 1 else t.downgraded })

def decideMany : Nat → RatioTracker → List Bool × RatioTracker
  | 0, t => ([], t)
  | n + 1, t =>
    let (first, t) := t.decide
    let (rest, t) := decideMany n t
    (first :: rest, t)

@[simp] theorem ratio_ofPercent (percent : Nat) : (ofPercent percent).ratio = min percent 100 := rfl

@[simp] theorem ratio_decide (t : RatioTracker) : t.decide.2.ratio = t.ratio := by
  unfold decide
  split <;> rfl

theorem decisions_decide (t : RatioTracker) :
    t.decide.2.decisions = t.decisions + if t.ratio = 0 then 0 else 1 := by
  unfold decide
  split <;> simp_all

theorem decide_of_pos (t : RatioTracker) (h : t.ratio ≠ 0) :
    t.decide.1 = Decidable.decide (t.decisions % 100 < t.ratio) := by
  simp [decide, h]

end RatioTracker
end SpanCapture
