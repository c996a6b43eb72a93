import SpanCapture.Config
import SpanCapture.Endpoint.Analyzer
import SpanCapture.Frame.Identity
import SpanCapture.Frame.Tree

/-! The recorder of one execution context: the frames open at the moment, innermost first,
and what has been gathered for the trace in progress. A closed frame belongs to its
parent; a closed root is a completed trace, and the recorder is then idle. -/
namespace SpanCapture

/-- What a recorder takes from the configuration. -/
structure Limits where
  maxFrames : Nat
  preserved : List String
  deriving Repr, DecidableEq

def Config.limits (c : Config) : Limits := ⟨c.maxFrames, c.preservedHints⟩

/-- A closed root with everything gathered while it was open. -/
structure CompletedTrace where
  root : Frame
  hints : Hints
  endpoint : Option Endpoint
  start : Instant
  identity : Identity

/-- What is known of the trace in progress in a context. -/
structure Recorder where
  limits : Limits
  analyzers : AnalyzerRegister
  identity : Identity
  /-- The open frames, innermost first, each with its closed children. -/
  openFrames : List Frame := []
  hints : Hints := []
  endpoint : Option Endpoint := none
  start : Option Instant := none
  lastId : Nat := 0
  /-- How many frames were entered for this trace and not taken away. -/
  frameCount : Nat := 0
  /-- How many frames were entered and not left. -/
  depth : Nat := 0

namespace Recorder

/-- Whether a trace is in progress. -/
def isBuilding (r : Recorder) : Bool := !r.openFrames.isEmpty

def atRoot (r : Recorder) : Bool := r.openFrames.length == 1

/-- Whether the trace in progress has grown too large. -/
def isAborted (r : Recorder) : Bool := r.hints.flag HintName.aborted

def top? (r : Recorder) : Option Frame := r.openFrames.head?

/-- The outermost open frame. -/
def root? (r : Recorder) : Option Frame := r.openFrames.getLast?

/-- Forgets the frames of the trace in progress and all that was counted; hints stay. -/
def reset (r : Recorder) : Recorder :=
  { r with
    openFrames := []
    endpoint := none
    start := none
    lastId := 0
    frameCount := 0
    depth := 0 }

def setHint (key : String) (value : Value) (r : Recorder) : Recorder :=
  { r with hints := r.hints.set key value }

def setHintObject (key object : String) (r : Recorder) : Recorder :=
  { r with hints := r.hints.insert key (.textObject object) }

/-- Stores a hint while the root is the current frame; the flag tells whether it is. -/
def setHintAtRoot (key : String) (value : Value) (r : Recorder) : Bool × Recorder :=
  if r.atRoot then (true, r.setHint key value) else (false, r)

/-- Drops the trace in progress and all hints; the flag tells whether there was one. -/
def dump (r : Recorder) : Bool × Recorder := (r.isBuilding, { r.reset with hints := [] })

/-- Starts afresh after a trace grew too large: only preserved hints stay. -/
def resetAborted (r : Recorder) : Recorder :=
  { r.reset with hints := r.hints.retain r.limits.preserved }

@[simp] theorem openFrames_reset (r : Recorder) : r.reset.openFrames = [] := rfl

@[simp] theorem hints_reset (r : Recorder) : r.reset.hints = r.hints := rfl

@[simp] theorem limits_reset (r : Recorder) : r.reset.limits = r.limits := rfl

@[simp] theorem openFrames_setHint (k : String) (v : Value) (r : Recorder) :
    (r.setHint k v).openFrames = r.openFrames := rfl

@[simp] theorem isBuilding_setHint (k : String) (v : Value) (r : Recorder) :
    (r.setHint k v).isBuilding = r.isBuilding := rfl

end Recorder
end SpanCapture
