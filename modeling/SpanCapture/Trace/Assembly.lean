import SpanCapture.Delivery.Dispatcher
import SpanCapture.Recorder.Exit

/-! Making traces of completed roots. The application is named first; a trace nobody can
name may get a diagnostic frame. Some traces are dropped: those of ignored applications,
those the watchdog closed, and discarded ones without a failure. The rest is finalized
once more and becomes a trace. -/
namespace SpanCapture

/-- Names the application a trace belongs to. -/
abbrev Resolver := Hints → Identity → Option String

namespace Resolver

/-- Reads the hint with the name of the application; an empty name is none. -/
def byHint : Resolver := fun hints _ =>
  match hints.text? HintName.application with
  | some name => if name.isEmpty then none else some name
  | none => none

end Resolver

/-- Why a trace is dropped. -/
inductive DumpReason where
  | ignoredApplication
  | exceededMaxTime
  | discarded
  deriving Repr, DecidableEq

/-- What is known beforehand about every trace. -/
structure Assembler where
  server : String
  diagnoseUnknown : Bool
  resolver : Resolver
  /-- Where the program stands when a diagnostic frame is made, innermost first. -/
  callStack : List String

inductive Assembled where
  | dumped (reason : DumpReason)
  | trace (trace : Trace)

namespace Frame

def greatestId (frame : Frame) : Nat := (frame.entries.map (·.id)).foldl max 0

def addChild (frame child : Frame) : Frame :=
  match frame with
  | .node entry children => .node entry (children ++ [child])

mutual

/-- Finalizes the operations of a tree in the order the frames were entered. The first
crash ends it. -/
def finalizeAll (clock : Clock) : Frame → Clock × Outcome Frame
  | .node entry children =>
    match entry.op.finalize clock with
    | (clock, _, .crashed message) => (clock, .crashed message)
    | (clock, op, .done ()) =>
      match finalizeIn clock children with
      | (clock, .crashed message) => (clock, .crashed message)
      | (clock, .done children) => (clock, .done (.node { entry with op } children))

def finalizeIn (clock : Clock) : List Frame → Clock × Outcome (List Frame)
  | [] => (clock, .done [])
  | frame :: rest =>
    match finalizeAll clock frame with
    | (clock, .crashed message) => (clock, .crashed message)
    | (clock, .done frame) =>
      match finalizeIn clock rest with
      | (clock, .crashed message) => (clock, .crashed message)
      | (clock, .done rest) => (clock, .done (frame :: rest))

end

end Frame

namespace Assembler

def unknownApplication : String := "unknown"

def diagnosticKind : String := "unknown-application"

def stackLimit : Nat := 64

/-- The operation of a diagnostic frame: where the unnamed trace came from. -/
def diagnosticOperation (callStack : List String) (identity : Identity) : Operation :=
  let op : Operation := { kind := diagnosticKind, label := "Unknown application" }
  let op := (op.put "context.id" (.ofUnsigned identity.context)).put "thread.id"
    (.text identity.threadId)
  let op := match identity.threadName with
    | some name => op.put "thread.name" (.text name)
    | none => op
  op.put "backtrace" (.list ((callStack.take stackLimit).map .text))

/-- Adds a diagnostic frame to a root: closed, at the end of the root, with a number not
used yet. -/
def diagnose (callStack : List String) (identity : Identity) (root : Frame) : Frame :=
  let entry := FrameEntry.opened (root.greatestId + 1) (some root.id)
    (diagnosticOperation callStack identity) root.entry.span.finish
  root.addChild (.node entry [])

/-- The application a trace is made for. -/
def applicationOf (a : Assembler) (completed : CompletedTrace) : String :=
  (a.resolver completed.hints completed.identity).getD unknownApplication

/-- Why a trace is dropped, if it is. A discarded trace with a failure is kept. -/
def dumpReason? (ignored : List String) (application : String) (hints : Hints) (root : Frame) :
    Option DumpReason :=
  if ignored.contains application then some .ignoredApplication
  else if hints.flag HintName.overdue then some .exceededMaxTime
  else if hints.flag HintName.discard && !root.containsException then some .discarded
  else none

/-- The trace of a finalized root. The identifier is the hint for it, or else the fresh one
given. -/
def traceOf (a : Assembler) (fresh application : String) (completed : CompletedTrace)
    (root : Frame) : Trace :=
  let hints := if root.containsException then
      completed.hints.set HintName.hasException (.bool true)
    else completed.hints
  { id := (hints.text? HintName.traceId).getD fresh
    application
    server := a.server
    kind := (hints.text? HintName.traceType).getD root.entry.op.kind
    start := completed.start
    root
    hints := hints.values
    sensitive := hints.flag HintName.sensitive
    minimal := hints.flag HintName.onlyEndpoints ||
      hints.text? HintName.collectionLevel == some "low"
    endpoint := completed.endpoint }

/-- Makes a trace of a completed root, or drops it for a reason. Scripts still pending run now,
and one that crashes leaves neither. -/
def assemble (a : Assembler) (ignored : List String) (fresh : String) (clock : Clock)
    (completed : CompletedTrace) : Clock × Outcome Assembled :=
  let application := a.applicationOf completed
  let root := if application = unknownApplication ∧ a.diagnoseUnknown then
      diagnose a.callStack completed.identity completed.root
    else completed.root
  match dumpReason? ignored application completed.hints root with
  | some reason => (clock, .done (.dumped reason))
  | none =>
    match root.finalizeAll clock with
    | (clock, .crashed message) => (clock, .crashed message)
    | (clock, .done root) => (clock, .done (.trace (a.traceOf fresh application completed root)))

def shown (a : Assembler) : String :=
  "TraceAssembler \x7b server_name: " ++ Text.quoted a.server ++
    ", debug_unknown_applications: " ++ (if a.diagnoseUnknown then "true" else "false") ++ " \x7d"

end Assembler
end SpanCapture
