import SpanCapture.Delivery.Writer
import SpanCapture.Trace.Basic

/-! Receivers of finished traces. A receiver that accepts a trace takes it over; one that
declines, fails or crashes leaves it to others. Three kinds are at hand: one that keeps
traces, one that writes a document per line and one that writes outlines. Others can be
supplied; their verdict may depend on all they have been offered before. -/
namespace SpanCapture

/-- How a receiver answers an offer. -/
inductive Verdict where
  | accepted
  | declined
  | failed (failure : Failure)
  | crashed (message : String)
  deriving Repr, DecidableEq

def Verdict.isAccepted : Verdict → Bool
  | .accepted => true
  | _ => false

/-- What a receiver does with a trace. -/
inductive Sink where
  | collecting (kept : List Trace)
  | jsonLines (writer : Writer)
  | outlines (writer : Writer)
  | custom (judge : List Trace → Trace → Verdict)

structure Receiver where
  label : String
  sink : Sink
  offered : List Trace := []

namespace Sink

def name : Sink → String
  | collecting _ => "collecting"
  | jsonLines _ => "json-lines"
  | outlines _ => "text"
  | custom _ => "trace-listener"

/-- Ends what was written by making it final. -/
def flush (writer : Writer) : Verdict :=
  if writer.flushFails then .failed (.stream .flushFailed) else .accepted

/-- Writes the document of a trace and a line break. What could be written stays, whatever
comes of it. -/
def writeLine (trace : Trace) (writer : Writer) : Verdict × Writer :=
  let document := trace.written
  match writer.write document.text with
  | (false, writer) => (.failed (.document (.stream .writerFull)), writer)
  | (true, writer) =>
    if document.stopped then (.failed (.document .dateBefore1970), writer)
    else
      match writer.write "\n" with
      | (false, writer) => (.failed (.stream .writerFull), writer)
      | (true, writer) => (flush writer, writer)

def writeOutline (trace : Trace) (writer : Writer) : Verdict × Writer :=
  match writer.write trace.outline with
  | (false, writer) => (.failed (.stream .writerFull), writer)
  | (true, writer) => (flush writer, writer)

/-- Takes an offer; the traces offered before come with it. -/
def take (offered : List Trace) (trace : Trace) : Sink → Verdict × Sink
  | collecting kept => (.accepted, collecting (kept ++ [trace]))
  | jsonLines writer =>
    let (verdict, writer) := writeLine trace writer
    (verdict, jsonLines writer)
  | outlines writer =>
    let (verdict, writer) := writeOutline trace writer
    (verdict, outlines writer)
  | custom judge => (judge offered trace, custom judge)

end Sink

namespace Receiver

/-- Offers a trace; the receiver remembers it whatever it answers. -/
def offer (trace : Trace) (receiver : Receiver) : Verdict × Receiver :=
  let (verdict, sink) := receiver.sink.take receiver.offered trace
  (verdict, { receiver with sink, offered := receiver.offered ++ [trace] })

/-- What the receiver keeps; those that keep nothing show all they were offered. -/
def traces (receiver : Receiver) : List Trace :=
  match receiver.sink with
  | .collecting kept => kept
  | _ => receiver.offered

def writer? (receiver : Receiver) : Option Writer :=
  match receiver.sink with
  | .jsonLines writer => some writer
  | .outlines writer => some writer
  | _ => none

def clear (receiver : Receiver) : Receiver :=
  match receiver.sink with
  | .collecting _ => { receiver with sink := .collecting [] }
  | _ => receiver

@[simp] theorem offered_offer (trace : Trace) (receiver : Receiver) :
    (receiver.offer trace).2.offered = receiver.offered ++ [trace] := rfl

end Receiver
end SpanCapture
