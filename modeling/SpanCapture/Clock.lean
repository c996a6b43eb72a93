/-! Time. Frames are measured on a clock that never goes backwards, in nanoseconds since
its own zero. The calendar time of that zero is fixed once, so a reading of the clock
also names an instant. Instants before 1970 exist, but only as stored values. -/
namespace SpanCapture

/-- An instant: whole seconds since 1970 (negative before it) and the nanoseconds after
that second, always below one thousand million. -/
structure Instant where
  seconds : Int
  nanos : Nat
  deriving Repr, DecidableEq

def nanosPerSecond : Nat := 1000000000

def Instant.ofNanos (nanos : Nat) : Instant :=
  ⟨(nanos / nanosPerSecond : Nat), nanos % nanosPerSecond⟩

def Instant.isBefore1970 (t : Instant) : Bool := t.seconds < 0

/-- A clock: the calendar time of its zero, in nanoseconds since 1970, and its reading. -/
structure Clock where
  zero : Nat
  now : Nat
  deriving Repr, DecidableEq

def Clock.advance (nanos : Nat) (clock : Clock) : Clock := { clock with now := clock.now + nanos }

def Clock.instant (clock : Clock) : Instant := .ofNanos (clock.zero + clock.now)

@[simp] theorem Clock.now_advance (n : Nat) (c : Clock) : (c.advance n).now = c.now + n := rfl

@[simp] theorem Clock.zero_advance (n : Nat) (c : Clock) : (c.advance n).zero = c.zero := rfl

end SpanCapture
