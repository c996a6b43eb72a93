import SpanCapture.Text.Written
import SpanCapture.Json.Printer

/-! Stretches of time on the clock frames are measured with. While a frame is open its
stretch ends where it starts; closing it never moves the end before the start. -/
namespace SpanCapture

/-- A stretch of time, in nanoseconds. -/
structure Interval where
  start : Nat
  finish : Nat
  deriving Repr, DecidableEq

namespace Interval

def opened (start : Nat) : Interval := ⟨start, start⟩

/-- The stretch between two readings; empty if the second comes first. -/
def between (start finish : Nat) : Interval := ⟨start, max finish start⟩

/-- The length of a stretch of time, zero while it lasts. -/
def duration (i : Interval) : Nat := i.finish - i.start

/-- Whether one stretch of time lies within another. -/
def contains (outer inner : Interval) : Bool :=
  outer.start ≤ inner.start && inner.finish ≤ outer.finish

def written (i : Interval) : Written :=
  Json.print (.object [("start_nanos", .int i.start), ("end_nanos", .int i.finish)])

@[simp] theorem duration_opened (start : Nat) : (opened start).duration = 0 := by
  simp [opened, duration]

theorem contains_iff (outer inner : Interval) :
    outer.contains inner ↔ outer.start ≤ inner.start ∧ inner.finish ≤ outer.finish := by
  simp [contains]

end Interval
end SpanCapture
