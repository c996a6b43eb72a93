import SpanCapture.Attribute.Document

/-! Operations: what a frame was doing. An operation has a kind, a label and a bag of
properties. Work that would be too dear while the operation runs is deferred: a list of
pending scripts waits until the operation is finalized. Deferred scripts may look into a
side table of rich objects, which no document ever shows. -/
namespace SpanCapture

/-- Where in the source an operation was begun. -/
structure SourcePlace where
  className : String
  methodName : String
  line : Nat
  deriving Repr, DecidableEq

/-- What a script may do with the operation it was deferred for. -/
inductive Action where
  | put (key : String) (value : Value)
  | putJson (key : String) (text : String)
  /-- Adds one to a whole number property; anything else counts as zero. -/
  | increment (key : String)
  | get (key : String)
  | remove (key : String)
  | label (text : String)
  /-- Stores in a property what the side table holds under a key. -/
  | rich (key : String) (target : String)
  | putRich (key : String) (object : String)
  | fail (message : String)
  | markEndpoint (on : Bool)
  | advance (nanos : Nat)
  /-- Stores in a property how many scripts are pending. -/
  | pending (target : String)
  | defer (script : List Action)
  | finalize
  | crash (message : String)
  | state
  deriving Repr, Inhabited

/-- Rich objects by name. -/
abbrev RichTable := Keyed String

/-- What a frame was doing: a kind, a label, properties, and what is kept until it is finalized. -/
structure Operation where
  kind : String
  label : String
  place : Option SourcePlace := none
  props : Attributes := []
  rich : RichTable := []
  /-- The deferred scripts, first come first. -/
  pending : List (List Action) := []
  deriving Repr, Inhabited

namespace Operation

def exceptionKey : String := "exception"

def endpointKey : String := "endpoint-source"

/-- The property the watchdog leaves on the frame that was open too long. -/
def overdueKey : String := "exceeded-max-time"

def put (key : String) (value : Value) (op : Operation) : Operation :=
  { op with props := op.props.insert key value }

def remove (key : String) (op : Operation) : Operation :=
  { op with props := op.props.erase key }

def fail (message : String) (op : Operation) : Operation := op.put exceptionKey (.text message)

/-- Whether a failure is recorded, of whatever kind of value. -/
def hasException (op : Operation) : Bool := op.props.contains exceptionKey

def isEndpointSource (op : Operation) : Bool := (op.props.getBool? endpointKey).getD false

/-- Puts the mark of an endpoint among the properties, or takes it away. -/
def markEndpoint (on : Bool) (op : Operation) : Operation :=
  if on then op.put endpointKey (.bool true) else op.remove endpointKey

/-- Adds a script behind those that are pending. -/
def defer (script : List Action) (op : Operation) : Operation :=
  { op with pending := op.pending ++ [script] }

def putRich (key object : String) (op : Operation) : Operation :=
  { op with rich := op.rich.insert key object }

def placeWritten (place : SourcePlace) : Written :=
  Json.print (.object [("class_name", .text place.className),
    ("method_name", .text place.methodName), ("line", .int place.line)])

def written (op : Operation) : Written :=
  let place := op.place.toList.map fun place => ("source_code_location", placeWritten place)
  Json.objectText <|
    [("type", Json.print (.text op.kind)), ("label", Json.print (.text op.label))] ++ place ++
      [("props", op.props.written)]

@[simp] theorem kind_put (k : String) (v : Value) (op : Operation) : (op.put k v).kind = op.kind :=
  rfl

@[simp] theorem props_put (k : String) (v : Value) (op : Operation) :
    (op.put k v).props = op.props.insert k v := rfl

@[simp] theorem pending_put (k : String) (v : Value) (op : Operation) :
    (op.put k v).pending = op.pending := rfl

theorem hasException_fail (m : String) (op : Operation) : (op.fail m).hasException = true := by
  simp [hasException, fail, Keyed.contains, Keyed.find?_insert_self]

theorem isEndpointSource_markEndpoint (on : Bool) (op : Operation) :
    (op.markEndpoint on).isEndpointSource = on := by
  cases on <;> simp [markEndpoint, isEndpointSource, put, remove, Attributes.getBool?,
    Keyed.find?_insert_self, Keyed.find?_erase_self]

end Operation
end SpanCapture
