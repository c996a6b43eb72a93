import SpanCapture.Endpoint.Basic
import SpanCapture.Frame.Tree

/-! Traces: one complete execution, the tree of its closed frames and what is known about
it as a whole. A trace has two written forms, a document and an outline of one line per
frame. -/
namespace SpanCapture

/-- A finished trace as it is handed to receivers. -/
structure Trace where
  id : String
  application : String
  server : String
  kind : String
  start : Instant
  root : Frame
  hints : Attributes
  sensitive : Bool
  /-- Recorded with less than full detail. -/
  minimal : Bool
  endpoint : Option Endpoint
  deriving Repr

namespace Trace

def size (t : Trace) : Nat := t.root.size

/-- How long its root was open, in nanoseconds. -/
def duration (t : Trace) : Nat := t.root.entry.span.duration

def written (t : Trace) : Written :=
  let endpoint := t.endpoint.toList.map fun e => ("endpoint", e.written)
  Json.objectText <|
    [("id", Json.print (.text t.id)), ("application_name", Json.print (.text t.application)),
      ("server_name", Json.print (.text t.server)), ("trace_type", Json.print (.text t.kind)),
      ("start_time", (Value.date t.start).written), ("root", t.root.written),
      ("hints", t.hints.written), ("sensitive", Json.print (.bool t.sensitive)),
      ("minimal", Json.print (.bool t.minimal))] ++ endpoint

/-- The document of a trace, if every value in it has a written form. -/
def document (t : Trace) : Except Failure String := t.written.text?

def indent (depth : Nat) : String := "".pushn ' ' (2 * (depth + 1))

def marks (op : Operation) : String :=
  (if op.hasException then " [exception]" else "") ++
    if op.isEndpointSource then " [endpoint]" else ""

/-- The row of a frame: number, kind, label and the microseconds it took. -/
def frameRow (depth : Nat) (e : FrameEntry) : String :=
  indent depth ++ "#" ++ toString e.id ++ " " ++ e.op.kind ++ " " ++ e.op.label ++ " (" ++
    toString (e.span.duration / 1000) ++ "us)" ++ marks e.op

/-- The row of the whole: what identifies the trace, its size, and its endpoint. -/
def headRow (t : Trace) : String :=
  "trace " ++ t.id ++ " app=" ++ t.application ++ " type=" ++ t.kind ++ " frames=" ++
    toString t.size ++ (t.endpoint.elim "" fun e => " endpoint=\"" ++ e.name ++ "\"")

def frameLine (depth : Nat) (e : FrameEntry) : String := frameRow depth e ++ "\n"

def headLine (t : Trace) : String := t.headRow ++ "\n"

/-- The outline of a trace: a line for the whole and one for each frame, indented by
depth. -/
def outline (t : Trace) : String :=
  t.headLine ++ String.join ((t.root.walk 0).map fun (depth, e) => frameLine depth e)

end Trace
end SpanCapture
