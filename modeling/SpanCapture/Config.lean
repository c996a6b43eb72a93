import SpanCapture.Failure
import SpanCapture.Hints
import SpanCapture.Number.Power
import SpanCapture.Toml.Document

/-! Configuration of a tracer. Every field has a default; a text may set any of them, and
fields it does not know are passed over. A configuration from a text is valid, one made
by hand is checked when a tracer is built from it. -/
namespace SpanCapture

/-- The limits and switches of a tracer. -/
structure Config where
  serverName : String := "localhost"
  maxFrames : Nat := 1000
  /-- The age at which the watchdog closes a trace, in seconds. -/
  maxTraceSeconds : Nat := 60
  /-- The time between two sweeps of the watchdog, in milliseconds. -/
  watchdogMillis : Nat := 5000
  bufferCapacity : Nat := 50
  /-- Whether a trace without an application gets a diagnostic frame. -/
  diagnoseUnknown : Bool := false
  /-- The hints that outlive the reset of a trace grown too large. -/
  preservedHints : List String := [HintName.application]
  endpointRatio : Nat := 0
  aspectThreshold : Nat := 3
  deriving Repr, DecidableEq

namespace Config

/-- Gives up on a trace after a second, and sweeps ten times in a second. -/
def shortLived : Config := { maxTraceSeconds := 1, watchdogMillis := 100 }

/-- The first field out of its range, in the order in which they are checked. -/
def fault? (c : Config) : Option ConfigFault :=
  if c.maxFrames = 0 then some (.zeroLimit "max_frames")
  else if c.maxTraceSeconds = 0 then some (.zeroLimit "max_trace_duration_secs")
  else if c.watchdogMillis = 0 then some (.zeroLimit "watchdog_interval_millis")
  else if c.bufferCapacity = 0 then some (.zeroLimit "dispatch_buffer_capacity")
  else if 100 < c.endpointRatio then some (.ratioAboveHundred c.endpointRatio)
  else none

def validate (c : Config) : Except Failure Config :=
  match c.fault? with
  | some fault => .error (.config fault)
  | none => .ok c

theorem fault?_eq_none_iff (c : Config) :
    c.fault? = none ↔ 0 < c.maxFrames ∧ 0 < c.maxTraceSeconds ∧ 0 < c.watchdogMillis ∧
      0 < c.bufferCapacity ∧ c.endpointRatio ≤ 100 := by
  unfold fault?
  split
  · simp [*]
  · split
    · simp [*]
    · split
      · simp [*]
      · split
        · simp [*]
        · split
          · simp; omega
          · simp; omega

/-- Reads a field: its default if it is missing, a failure if it is of the wrong kind. -/
def readField {α : Type} (fields : Toml.Entries) (name : String) (default : α)
    (read : Toml.Node → Option α) : Except Failure α :=
  match fields.find? name with
  | none => .ok default
  | some node => (read node).elim (.error .configText) .ok

/-- A number of so many bits, without sign. -/
def readWord (bits : Nat) : Toml.Node → Option Nat
  | .integer i => if 0 ≤ i ∧ i < twoTo bits then some i.toNat else none
  | _ => none

def readText : Toml.Node → Option String
  | .text s => some s
  | _ => none

def readBool : Toml.Node → Option Bool
  | .bool b => some b
  | _ => none

def readTexts : Toml.Node → Option (List String)
  | .array items => items.mapM readText
  | _ => none

/-- The configuration in the outermost table of a text, valid or not. -/
def ofEntries (fields : Toml.Entries) : Except Failure Config := do
  let base : Config := {}
  let serverName ← readField fields "server_name" base.serverName readText
  let maxFrames ← readField fields "max_frames" base.maxFrames (readWord 64)
  let maxTraceSeconds ←
    readField fields "max_trace_duration_secs" base.maxTraceSeconds (readWord 64)
  let watchdogMillis ←
    readField fields "watchdog_interval_millis" base.watchdogMillis (readWord 64)
  let bufferCapacity ←
    readField fields "dispatch_buffer_capacity" base.bufferCapacity (readWord 64)
  let diagnoseUnknown ←
    readField fields "debug_unknown_applications" base.diagnoseUnknown readBool
  let preservedHints ← readField fields "preserved_hints" base.preservedHints readTexts
  let endpointRatio ← readField fields "endpoint_only_ratio" base.endpointRatio (readWord 8)
  let aspectThreshold ←
    readField fields "aspect_failure_threshold" base.aspectThreshold (readWord 32)
  .ok {
    serverName, maxFrames, maxTraceSeconds, watchdogMillis, bufferCapacity, diagnoseUnknown
    preservedHints, endpointRatio, aspectThreshold }

/-- The configuration a text gives, if it is a valid one. -/
def ofToml (text : String) : Except Failure Config :=
  match Toml.parse? text with
  | none => .error .configText
  | some fields => ofEntries fields >>= validate

def ofBytes (bytes : ByteArray) : Except Failure Config :=
  match String.fromUTF8? bytes with
  | none => .error (.stream .notUtf8)
  | some text => ofToml text

end Config
end SpanCapture
